import PolicyGuard.Text.Hex
import PolicyGuard.Text.Scan

/-!
Identifiers of 32 hexadecimal digits.

They are read with hyphens in the usual places, also in braces or after
`urn:uuid:`, or as bare digits; `Uuid.text` is lower case with hyphens.
-/

namespace PolicyGuard

structure Uuid where
  digits : List (Fin 16)
  length_digits : digits.length = 32
  deriving DecidableEq

namespace Uuid

/-- The digits between hyphens. -/
def groupSizes : List Nat :=
  [8, 4, 4, 4, 12]

def digit? (c : Char) : Option (Fin 16) := do
  let n ← Text.hexValue? c
  if h : n < 16 then return ⟨n, h⟩ else none

def ofDigits? (cs : List Char) : Option Uuid := do
  let digits ← cs.mapM digit?
  if h : digits.length = 32 then return ⟨digits, h⟩ else none

/-- The digits of groups with a hyphen between any two. -/
def ungroup? : List Nat → List Char → Option (List Char)
  | [], cs => if cs.isEmpty then some [] else none
  | [n], cs => if cs.length = n then some cs else none
  | n :: sizes, cs =>
    match cs.drop n with
    | '-' :: rest => (ungroup? sizes rest).map (cs.take n ++ ·)
    | _ => none

def hyphenated? (cs : List Char) : Option Uuid := do
  ofDigits? (← ungroup? groupSizes cs)

/-- What is left of a text in braces or after the name of its kind. -/
def unwrap (cs : List Char) : List Char :=
  match cs with
  | '{' :: rest => if rest.getLast? = some '}' then rest.dropLast else cs
  | _ => (Text.after? "urn:uuid:".toList cs).getD cs

def read? (s : String) : Option Uuid :=
  let cs := s.toList
  if cs.length = 32 then ofDigits? cs else hyphenated? (unwrap cs)

/-- Groups of characters with a hyphen between any two. -/
def group : List Nat → List Char → List Char
  | [], _ => []
  | [n], cs => cs.take n
  | n :: sizes, cs => cs.take n ++ '-' :: group sizes (cs.drop n)

def text (u : Uuid) : String :=
  String.ofList (group groupSizes (u.digits.map fun d => Text.hexDigit d.val))

/-- The identifier of a number, which counts modulo 2^128. -/
def ofNat (n : Nat) : Uuid where
  digits := (List.range 32).reverse.map fun i => Fin.ofNat 16 (n / Nat.pow 16 i)
  length_digits := by simp

instance : Inhabited Uuid := ⟨ofNat 0⟩

end Uuid

end PolicyGuard
