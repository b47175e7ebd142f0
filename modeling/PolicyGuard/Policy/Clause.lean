import PolicyGuard.Policy.Value
import PolicyGuard.Text.Lowercase
import PolicyGuard.Text.Scan

/-!
Clauses of a statement's body, such as `request.hostname contains "x"`.

A clause is a word, a point, a word that names the field, an operator and a
value. The field gives up characters at its end where only that leaves an
operator, so `a.bcontains "x"` is about `b`; an operator of two characters gives
up the second where only that leaves a value.
-/

namespace PolicyGuard.Policy

/-- A clause as written: the operator still is a token. -/
structure Clause where
  field : String
  token : String
  value : Value
  deriving DecidableEq, Repr

namespace Clause

/-- What follows a word in any case, and the word as written. -/
def afterWord? : List Char → List Char → Option (List Char × List Char)
  | [], cs => some ([], cs)
  | _ :: _, [] => none
  | w :: ws, c :: cs =>
    if Text.matchesLetter w c then (afterWord? ws cs).map fun p => (c :: p.1, p.2) else none

/-- A symbol, as written, and what follows it. -/
def symbol? (symbol : String) (cs : List Char) : Option (List Char × List Char) :=
  (Text.after? symbol.toList cs).map fun rest => (symbol.toList, rest)

/-- A word operator ends where a word ends. -/
def wordOperator? (word : String) (cs : List Char) : Option (List Char × List Char) :=
  match afterWord? word.toList cs with
  | some (written, rest) => if rest.head?.any Text.isWord then none else some (written, rest)
  | none => none

/-- The characters that end a value without quotes. -/
def endsBare (c : Char) : Bool :=
  Text.isBlank c || c = '"' || c = '&' || c = '|' || c = ';' || c = ')' || c = '}'

/-- A value in quotes, or a token without. -/
def value? : List Char → Option (Value × List Char)
  | '"' :: rest =>
    match rest.dropWhile (· ≠ '"') with
    | _ :: tail => some (.text (String.ofList (rest.takeWhile (· ≠ '"'))), tail)
    | [] => none
  | cs =>
    let token := cs.takeWhile (!endsBare ·)
    if token.isEmpty then none else some (.ofToken token, cs.dropWhile (!endsBare ·))

/-- The operators in the order in which they are tried. -/
def operators : List (List Char → Option (List Char × List Char)) :=
  [symbol? "==", symbol? "!=", symbol? ">=", symbol? "<=", symbol? ">", symbol? "<",
    wordOperator? "contains", wordOperator? "startswith", wordOperator? "endswith"]

/-- Operator and value after a field. -/
def comparison? (cs : List Char) : Option (String × Value × List Char) :=
  operators.findSome? fun operator? => do
    let (token, rest) ← operator? (Text.skipBlanks cs)
    let (value, rest) ← value? (Text.skipBlanks rest)
    return (String.ofList token, value, rest)

/-- The clause of a field that ends here; `taken` is the field in reverse. -/
def endingHere? (taken cs : List Char) : Option (Clause × List Char) :=
  if taken.isEmpty then none
  else (comparison? cs).map fun (token, value, rest) =>
    (⟨Text.lowerAscii (String.ofList taken.reverse), token, value⟩, rest)

/-- The rest of a clause after the point: the longest field that leaves a
comparison. `taken` is the part of the field before, in reverse. -/
def afterPoint? (taken : List Char) : List Char → Option (Clause × List Char)
  | [] => none
  | c :: rest =>
    if Text.isWord c then
      match afterPoint? (c :: taken) rest with
      | some found => some found
      | none => endingHere? taken (c :: rest)
    else endingHere? taken (c :: rest)

/-- A clause at the start of a word, and how many characters it takes. -/
def read? (before : Option Char) (cs : List Char) : Option (Clause × Nat) :=
  if before.any Text.isWord || (cs.takeWhile Text.isWord).isEmpty then none
  else
    match cs.dropWhile Text.isWord with
    | '.' :: rest => (afterPoint? [] rest).map fun (clause, tail) => (clause, cs.length - tail.length)
    | _ => none

/-- The clauses of a body, from left to right. -/
def all (body : List Char) : List Clause :=
  Text.findAll read? body

end Clause

end PolicyGuard.Policy
