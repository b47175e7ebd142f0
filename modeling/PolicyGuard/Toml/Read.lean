import PolicyGuard.Toml.Scalar

/-!
TOML documents: keys, values, headers, and the tables that they build up.

`Toml.read?` is the table that a text writes. Nothing may be defined twice, and
what a header or braces have closed stays closed.
-/

namespace PolicyGuard.Toml

/-! ## Keys and values -/

def isBareKey (c : Char) : Bool :=
  c.isAlphanum || c = '-' || c = '_'

/-- One part of a key. -/
def readPart? (cs : List Char) : Option (String × List Char) :=
  match cs with
  | '"' :: rest => (readLine? '"' true (rest.length + 1) rest).map fun p => (String.ofList p.1, p.2)
  | '\'' :: rest =>
    (readLine? '\'' false (rest.length + 1) rest).map fun p => (String.ofList p.1, p.2)
  | _ =>
    let name := cs.takeWhile isBareKey
    if name.isEmpty then none else some (String.ofList name, cs.dropWhile isBareKey)

/-- The parts of a key between dots, with blanks around each. -/
def readParts? : Nat → List Char → Option (List String × List Char)
  | 0, _ => none
  | n + 1, cs => do
    let (part, rest) ← readPart? (skipSpaces cs)
    match skipSpaces rest with
    | '.' :: rest =>
      let (parts, tail) ← readParts? n rest
      return (part :: parts, tail)
    | rest => return ([part], rest)

/-- Keys have fewer parts, and values fewer levels, than this. -/
def depthLimit : Nat := 80

def readKey? (cs : List Char) : Option (List String × List Char) := do
  let (parts, rest) ← readParts? (cs.length + 1) cs
  if parts.length < depthLimit then return (parts, rest) else none

/-- Skips blanks, ends of lines and comments between the items of an array. -/
def skipGaps : Nat → List Char → List Char
  | 0, cs => cs
  | n + 1, cs =>
    match skipSpaces cs with
    | '#' :: rest =>
      match afterNewline? (rest.dropWhile isPlain) with
      | some rest => skipGaps n rest
      | none => '#' :: rest
    | rest =>
      match afterNewline? rest with
      | some rest => skipGaps n rest
      | none => rest

/-- Characters of numbers, dates and truth values. -/
def isTokenChar (c : Char) : Bool :=
  c.isAlphanum || c = '+' || c = '-' || c = '_' || c = '.' || c = ':'

/-- A token; a date and a time may have one space between them. -/
def takeToken (cs : List Char) : List Char × List Char :=
  let token := cs.takeWhile isTokenChar
  match afterDate? token, cs.dropWhile isTokenChar with
  | some [], ' ' :: a :: b :: ':' :: rest =>
    if a.isDigit && b.isDigit then
      (token ++ ' ' :: a :: b :: ':' :: rest.takeWhile isTokenChar, rest.dropWhile isTokenChar)
    else (token, cs.dropWhile isTokenChar)
  | _, rest => (token, rest)

def scalar? (token : List Char) : Option Toml :=
  if token = "true".toList then some (boolean true)
  else if token = "false".toList then some (boolean false)
  else if isDateTime token then some (dateTime (String.ofList token))
  else
    match float? token, integer? token with
    | some x, _ => some (float x)
    | none, some i => some (integer i)
    | none, none => none

/-! ## Tables -/

/-- Adds a value to the members of a table under a key with dots. `isDotted` says
whether dots led to this table, and `atStart` whether it is where the key starts. -/
def insert? (value : Toml) : Bool → Bool → List String → Members → Option Members
  | _, _, [], _ => none
  | isDotted, atStart, [name], ms =>
    if isDotted = atStart || (ms.lookup name).isSome then none else some (ms.put name value)
  | _, _, name :: rest, ms => do
    let changed ← match ms.lookup name with
      | none => (insert? value true false rest []).map (table .dotted)
      | some (table .dotted inner) => (insert? value true false rest inner).map (table .dotted)
      | some (table .implicit inner) => (insert? value false false rest inner).map (table .implicit)
      | some (tables items) => items.getLast?.bind fun last =>
        (insert? value false false rest last).map fun ms => tables (items.dropLast ++ [ms])
      | some _ => none
    return ms.put name changed

/-- Adds a value to a table in braces, where dots lead only to what dots have made. -/
def insertInline? (value : Toml) : Bool → Bool → List String → Members → Option Members
  | _, _, [], _ => none
  | isDotted, atStart, [name], ms =>
    if isDotted = atStart || (ms.lookup name).isSome then none else some (ms.put name value)
  | _, _, name :: rest, ms => do
    let changed ← match ms.lookup name with
      | none => (insertInline? value true false rest []).map (table .dotted)
      | some (table .dotted inner) => (insertInline? value true false rest inner).map (table .dotted)
      | some _ => none
    return ms.put name changed

mutual

/-- A value; `depth` more levels may open. -/
def readValue? : Nat → Nat → List Char → Option (Toml × List Char)
  | 0, _, _ => none
  | n + 1, depth, cs =>
    match cs with
    | '"' :: rest => (readString? '"' rest).map fun p => (string p.1, p.2)
    | '\'' :: rest => (readString? '\'' rest).map fun p => (string p.1, p.2)
    | '[' :: rest => if depth = 0 then none else readItems? n (depth - 1) [] rest
    | '{' :: rest =>
      if depth = 0 then none
      else
        match skipSpaces rest with
        | '}' :: tail => some (table .inline [], tail)
        | rest => readMembers? n (depth - 1) [] rest
    | _ =>
      let (token, rest) := takeToken cs
      (scalar? token).map (·, rest)

/-- The further items of an array, after those that are there already, backwards. -/
def readItems? : Nat → Nat → List Toml → List Char → Option (Toml × List Char)
  | 0, _, _, _ => none
  | n + 1, depth, items, cs =>
    match skipGaps cs.length cs with
    | ']' :: rest => some (array items.reverse, rest)
    | rest => do
      let (item, rest) ← readValue? n depth rest
      match skipGaps rest.length rest with
      | ',' :: rest => readItems? n depth (item :: items) rest
      | ']' :: rest => return (array (item :: items).reverse, rest)
      | _ => none

/-- The further members of a table in braces. -/
def readMembers? : Nat → Nat → Members → List Char → Option (Toml × List Char)
  | 0, _, _, _ => none
  | n + 1, depth, ms, cs => do
    let (key, rest) ← readKey? cs
    let (value, rest) ← match rest with
      | '=' :: rest => readValue? n depth (skipSpaces rest)
      | _ => none
    let ms ← insertInline? value false true key ms
    match skipSpaces rest with
    | ',' :: rest => readMembers? n depth ms rest
    | '}' :: rest => return (table .inline ms, rest)
    | _ => none

end

/-! ## Lines -/

/-- A line of a document that says something. -/
inductive Line where
  | entry (key : List String) (value : Toml)
  | header (path : List String)
  | arrayHeader (path : List String)

/-- The rest after the end of a line, with blanks and a comment before it. -/
def afterLine? (cs : List Char) : Option (List Char) :=
  let rest := match skipSpaces cs with
    | '#' :: comment => comment.dropWhile isPlain
    | rest => rest
  if rest.isEmpty then some [] else afterNewline? rest

/-- One line, without its end. -/
def readLineHead? (cs : List Char) : Option (Line × List Char) :=
  match cs with
  | '[' :: '[' :: rest => do
    let (path, rest) ← readKey? rest
    match rest with
    | ']' :: ']' :: rest => return (.arrayHeader path, rest)
    | _ => none
  | '[' :: rest => do
    let (path, rest) ← readKey? rest
    match rest with
    | ']' :: rest => return (.header path, rest)
    | _ => none
  | _ => do
    let (key, rest) ← readKey? cs
    match rest with
    | '=' :: rest =>
      let (value, rest) ← readValue? (rest.length + 1) (depthLimit - 1) (skipSpaces rest)
      return (.entry key value, rest)
    | _ => none

/-- The lines of a document that say something. -/
def readLines : Nat → List Char → Option (List Line)
  | 0, _ => none
  | n + 1, cs =>
    match skipSpaces cs with
    | [] => some []
    | rest =>
      match afterLine? rest with
      | some rest => readLines n rest
      | none => do
        let (line, rest) ← readLineHead? rest
        return line :: (← readLines n (← afterLine? rest))

/-! ## Documents -/

/-- The entries under one header. -/
structure Section where
  isArray : Bool
  path : List String
  entries : List (List String × Toml)

/-- The entries before the first header, and the sections. -/
def sections : List Line → List (List String × Toml) × List Section
  | [] => ([], [])
  | .entry key value :: rest =>
    let (entries, others) := sections rest
    ((key, value) :: entries, others)
  | .header path :: rest =>
    let (entries, others) := sections rest
    ([], ⟨false, path, entries⟩ :: others)
  | .arrayHeader path :: rest =>
    let (entries, others) := sections rest
    ([], ⟨true, path, entries⟩ :: others)

def insertAll? (entries : List (List String × Toml)) (ms : Members) : Option Members :=
  entries.foldlM (fun ms e => insert? e.2 false true e.1 ms) ms

/-- The table of a header: a new one, or one that a longer header has made. -/
def placeTable? (entries : List (List String × Toml)) : Option Toml → Option Toml
  | none => (insertAll? entries []).map (table .header)
  | some (table .implicit ms) => (insertAll? entries ms).map (table .header)
  | some _ => none

/-- One more table of a header that comes again and again. -/
def placeItem? (entries : List (List String × Toml)) : Option Toml → Option Toml
  | none => do return tables [← insertAll? entries []]
  | some (tables items) => do return tables (items ++ [← insertAll? entries []])
  | some _ => none

/-- Puts something at the end of the path of a header. -/
def place? (change : Option Toml → Option Toml) : List String → Members → Option Members
  | [], _ => none
  | [name], ms => do return ms.put name (← change (ms.lookup name))
  | name :: rest, ms => do
    let changed ← match ms.lookup name with
      | none => (place? change rest []).map (table .implicit)
      | some (table .inline _) => none
      | some (table kind inner) => (place? change rest inner).map (table kind)
      | some (tables items) => items.getLast?.bind fun last =>
        (place? change rest last).map fun ms => tables (items.dropLast ++ [ms])
      | some _ => none
    return ms.put name changed

def Section.place? (s : Section) (ms : Members) : Option Members :=
  Toml.place? (if s.isArray then placeItem? s.entries else placeTable? s.entries) s.path ms

/-- The table that a text writes. -/
def read? (text : String) : Option Members := do
  let cs := match text.toList with
    | '\uFEFF' :: rest => rest
    | cs => cs
  let (entries, others) := sections (← readLines (cs.length + 1) cs)
  others.foldlM (fun ms s => s.place? ms) (← insertAll? entries [])

end PolicyGuard.Toml
