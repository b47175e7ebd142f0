import PolicyGuard.Pattern.Basic
import PolicyGuard.Text.Hex
import PolicyGuard.Text.Scan

/-!
Reading escapes and bracketed classes of patterns.
-/

namespace PolicyGuard.Pattern

/-- What the flags of a pattern switch on. -/
structure Flags where
  ignoreCase : Bool
  multiLine : Bool
  dotAll : Bool
  unicode : Bool
  crlf : Bool
  verbose : Bool
  deriving DecidableEq, Repr

/-- Flags at the start of a pattern. -/
def Flags.initial : Flags :=
  ⟨false, false, false, true, false, false⟩

/-- Skips blanks, and comments up to the end of the line. -/
def skipRemarks : Bool → List Char → List Char
  | _, [] => []
  | true, c :: rest => skipRemarks (c ≠ '\n') rest
  | false, c :: rest =>
    if Text.isBlank c then skipRemarks false rest
    else if c = '#' then skipRemarks true rest
    else c :: rest

def Flags.skip (f : Flags) (cs : List Char) : List Char :=
  if f.verbose then skipRemarks false cs else cs

/-! ## Escapes -/

/-- What an escape stands for. -/
inductive Escape where
  | char (c : Char)
  | set (s : CharSet)
  | anchor (a : Anchor)

/-- A character by its code point. -/
def charOf? (digits : List Char) : Option Char := do
  let n ← Text.hexNumber? digits
  if n.isValidChar then return Char.ofNat n else none

/-- A code point of a fixed number of digits, or of any number in braces. -/
def readHex? (f : Flags) (width : Nat) (cs : List Char) : Option (Char × List Char) :=
  match f.skip cs with
  | '{' :: rest =>
    let digits := rest.takeWhile (· ≠ '}')
    let plain := if f.verbose then digits.filter (fun c => !Text.isBlank c) else digits
    match rest.dropWhile (· ≠ '}') with
    | _ :: tail => if plain.isEmpty then none else (charOf? plain).map (·, tail)
    | [] => none
  | rest =>
    let digits := rest.take width
    if digits.length < width then none else (charOf? digits).map (·, rest.drop width)

/-- A set or its complement. Without Unicode a complement has no place. -/
def signed? (f : Flags) (negated : Bool) (unicode ascii : CharSet) : Option CharSet :=
  if f.unicode then some (if negated then .complement unicode else unicode)
  else if negated then none
  else some ascii

def boundary (f : Flags) (test : Bool → Bool → Bool) : Escape :=
  .anchor (.boundary test f.unicode)

/-- The name of a special boundary in braces: `none` where the braces hold no
letters and mean something else. -/
def readBoundaryName? (f : Flags) (cs : List Char) : Option (Option (List Char × List Char)) :=
  let isName (c : Char) : Bool := c.isAlpha || c = '-'
  match cs with
  | '{' :: rest =>
    let rest := f.skip rest
    if rest.isEmpty then none
    else
      let name := rest.takeWhile isName
      if name.isEmpty then some none
      else
        match f.skip (rest.dropWhile isName) with
        | '}' :: tail => some (some (name, tail))
        | _ => none
  | _ => some none

/-- A word boundary, which may have a name that restricts it. -/
def readBoundary? (f : Flags) (cs : List Char) : Option (Escape × List Char) := do
  match ← readBoundaryName? f cs with
  | none => return (boundary f fun a b => a != b, cs)
  | some (name, tail) =>
    let test ← match String.ofList name with
      | "start" => some fun a b => !a && b
      | "end" => some fun a b => a && !b
      | "start-half" => some fun a _ => !a
      | "end-half" => some fun _ b => !b
      | _ => none
    return (boundary f test, tail)

/-- Whether a backslash makes this character stand for itself. -/
def isEscapable (c : Char) : Bool :=
  c.val < 128 && !c.isAlphanum && c ≠ '<' && c ≠ '>'

/-- What follows a backslash. -/
def readEscape? (f : Flags) : List Char → Option (Escape × List Char)
  | [] => none
  | c :: rest =>
    match c with
    | 'x' => (readHex? f 2 rest).map fun p => (.char p.1, p.2)
    | 'u' => (readHex? f 4 rest).map fun p => (.char p.1, p.2)
    | 'U' => (readHex? f 8 rest).map fun p => (.char p.1, p.2)
    | 'd' => (signed? f false .digit .asciiDigit).map (.set ·, rest)
    | 'D' => (signed? f true .digit .asciiDigit).map (.set ·, rest)
    | 's' => (signed? f false .blank .asciiBlank).map (.set ·, rest)
    | 'S' => (signed? f true .blank .asciiBlank).map (.set ·, rest)
    | 'w' => (signed? f false .word .asciiWord).map (.set ·, rest)
    | 'W' => (signed? f true .word .asciiWord).map (.set ·, rest)
    | 'a' => some (.char '\x07', rest)
    | 'f' => some (.char '\x0c', rest)
    | 't' => some (.char '\t', rest)
    | 'n' => some (.char '\n', rest)
    | 'r' => some (.char '\x0d', rest)
    | 'v' => some (.char '\x0b', rest)
    | 'A' => some (.anchor .textStart, rest)
    | 'z' => some (.anchor .textEnd, rest)
    | 'b' => readBoundary? f rest
    | 'B' => some (boundary f fun a b => a == b, rest)
    | '<' => some (boundary f fun a b => !a && b, rest)
    | '>' => some (boundary f fun a b => a && !b, rest)
    | _ => if isEscapable c then some (.char c, rest) else none

/-! ## Classes -/

/-- The named sets of ASCII characters. -/
def namedSet? (name : String) : Option CharSet :=
  match name with
  | "alnum" => some (.ofRanges [('0', '9'), ('A', 'Z'), ('a', 'z')])
  | "alpha" => some (.ofRanges [('A', 'Z'), ('a', 'z')])
  | "ascii" => some (.range '\x00' '\x7f')
  | "blank" => some (.ofRanges [('\t', '\t'), (' ', ' ')])
  | "cntrl" => some (.ofRanges [('\x00', '\x1f'), ('\x7f', '\x7f')])
  | "digit" => some .asciiDigit
  | "graph" => some (.range '!' '~')
  | "lower" => some (.range 'a' 'z')
  | "print" => some (.range ' ' '~')
  | "punct" => some (.ofRanges [('!', '/'), (':', '@'), ('[', '\x60'), ('\x7b', '~')])
  | "space" => some .asciiBlank
  | "upper" => some (.range 'A' 'Z')
  | "word" => some .asciiWord
  | "xdigit" => some (.ofRanges [('0', '9'), ('A', 'F'), ('a', 'f')])
  | _ => none

/-- A named set in brackets and colons, where there is one. -/
def readNamedSet? : List Char → Option (CharSet × List Char)
  | '[' :: ':' :: rest =>
    let (negated, rest) := match rest with
      | '^' :: tail => (true, tail)
      | tail => (false, tail)
    match rest.dropWhile (· ≠ ':') with
    | ':' :: ']' :: tail =>
      (namedSet? (String.ofList (rest.takeWhile (· ≠ ':')))).map fun s =>
        (if negated then .complement s else s, tail)
    | _ => none
  | _ => none

/-- One character or set inside a class. -/
def readMember? (f : Flags) : List Char → Option (Escape × List Char)
  | '\\' :: rest => readEscape? f rest
  | c :: rest => some (.char c, rest)
  | [] => none

/-- The set of one member. An anchor is none. -/
def memberSet? : Escape → Option CharSet
  | .char c => some (.single c)
  | .set s => some s
  | .anchor _ => none

/-- A member, or a range of characters between two. -/
def readRange? (f : Flags) (cs : List Char) : Option (CharSet × List Char) := do
  let (first, rest) ← readMember? f cs
  match f.skip rest with
  | [] => none
  | '-' :: tail =>
    let tail := f.skip tail
    if tail.isEmpty then none
    else if tail.head? = some ']' || tail.head? = some '-' then
      return (← memberSet? first, f.skip rest)
    else
      let (last, rest) ← readMember? f tail
      match first, last with
      | .char a, .char b => if a ≤ b then return (.range a b, rest) else none
      | _, _ => none
  | rest => return (← memberSet? first, rest)

inductive SetOperator where
  | inter
  | minus
  | oneOf
  deriving DecidableEq, Repr

/-- A class that is still open, or an operator that waits for its second set. -/
inductive ClassFrame where
  | opened (outer : CharSet) (negated : Bool)
  | waiting (op : SetOperator) (left : CharSet)

def caseSet (f : Flags) (s : CharSet) : CharSet :=
  if f.ignoreCase then .folded f.unicode s else s

/-- Applies the operator that waits for this set. -/
def applyWaiting (f : Flags) (right : CharSet) : List ClassFrame → CharSet × List ClassFrame
  | .waiting op left :: frames =>
    let left := caseSet f left
    let right := caseSet f right
    (match op with
      | .inter => .inter left right
      | .minus => .minus left right
      | .oneOf => .oneOf left right, frames)
  | frames => (right, frames)

/-- The hyphens, or else the closing bracket, that stand for themselves at the
start of a class. -/
def readClassStart (f : Flags) : Nat → CharSet → List Char → CharSet × List Char
  | n + 1, s, '-' :: rest => readClassStart f n (.union s (.single '-')) (f.skip rest)
  | _, .none, ']' :: rest => (.single ']', f.skip rest)
  | _, s, cs => (s, cs)

/-- What follows the opening bracket of a class. -/
def openClass (f : Flags) (cs : List Char) : Bool × CharSet × List Char :=
  match f.skip cs with
  | '^' :: rest => (true, readClassStart f rest.length .none (f.skip rest))
  | rest => (false, readClassStart f rest.length .none rest)

/-- Reads on inside of open classes, with what the innermost one has so far. -/
def readClassFrom? (f : Flags) :
    Nat → List ClassFrame → CharSet → List Char → Option (CharSet × List Char)
  | 0, _, _, _ => none
  | n + 1, frames, s, cs =>
    let operator (op : SetOperator) (rest : List Char) :=
      let (left, frames) := applyWaiting f s frames
      readClassFrom? f n (.waiting op left :: frames) .none rest
    match f.skip cs with
    | [] => none
    | '[' :: rest =>
      match readNamedSet? ('[' :: rest) with
      | some (t, tail) => readClassFrom? f n frames (.union s t) tail
      | none =>
        let (negated, t, tail) := openClass f rest
        readClassFrom? f n (.opened s negated :: frames) t tail
    | ']' :: rest =>
      let (s, frames) := applyWaiting f s frames
      match frames with
      | .opened outer negated :: frames =>
        let s := caseSet f s
        let s := if negated then .complement s else s
        if frames.isEmpty then some (s, rest)
        else readClassFrom? f n frames (.union outer s) rest
      | _ => none
    | '&' :: '&' :: rest => operator .inter rest
    | '-' :: '-' :: rest => operator .minus rest
    | '~' :: '~' :: rest => operator .oneOf rest
    | rest =>
      match readRange? f rest with
      | some (t, tail) => readClassFrom? f n frames (.union s t) tail
      | none => none

/-- A class, from after its opening bracket on. Without Unicode it holds ASCII only. -/
def readClass? (f : Flags) (cs : List Char) : Option (CharSet × List Char) := do
  let (negated, s, rest) := openClass f cs
  let (s, rest) ← readClassFrom? f (cs.length + 1) [.opened .none negated] s rest
  if !f.unicode && s.has '\u0080' then none else return (s, rest)

end PolicyGuard.Pattern
