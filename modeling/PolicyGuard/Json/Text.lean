import PolicyGuard.Json.Value
import PolicyGuard.Number.Decimal
import PolicyGuard.Text.Hex

/-!
Compact text of JSON values: no blanks, members in order, and only the escapes
that the format demands. Floating point numbers have the fewest digits that read
back, and always a point or an exponent.
-/

namespace PolicyGuard

namespace Binary64

/-- Digits with a point after the first of them. -/
def scientificDigits (ds : List Char) : List Char :=
  match ds with
  | [] => []
  | [d] => [d]
  | d :: rest => d :: '.' :: rest

/-- Text of the digits `m` times `10^e`: positional from 1e-5 up to below 1e16. -/
def withPoint (m : Nat) (e : Int) : List Char :=
  let ds := digitsOf m
  let point := (ds.length : Int) + e
  if -5 < point && point ≤ 16 then
    positional m e ++ (if 0 ≤ e then ['.', '0'] else [])
  else
    let power := point - 1
    scientificDigits ds ++ 'e' :: (if power < 0 then '-' else '+') :: digitsOf power.natAbs

end Binary64

namespace Json

/-- The text of a floating point number; `null` where there is none. -/
def floatText : Binary64 → List Char
  | .finite negative steps =>
    let (m, e) := Binary64.shortest .even steps
    (if negative then ['-'] else []) ++ Binary64.withPoint m e
  | _ => "null".toList

def intText (i : Int) : List Char :=
  if i < 0 then '-' :: Binary64.digitsOf i.natAbs else Binary64.digitsOf i.natAbs

def Number.text : Number → List Char
  | whole i => intText i
  | float x => floatText x

/-- A character as it stands between quotes. -/
def escaped (c : Char) : List Char :=
  if c = '"' then ['\\', '"']
  else if c = '\\' then ['\\', '\\']
  else if c = '\n' then ['\\', 'n']
  else if c = '\r' then ['\\', 'r']
  else if c = '\t' then ['\\', 't']
  else if c = '\x08' then ['\\', 'b']
  else if c = '\x0c' then ['\\', 'f']
  else if c.toNat < 0x20 then
    ['\\', 'u', '0', '0', Text.hexDigit (c.toNat / 16), Text.hexDigit (c.toNat % 16)]
  else [c]

def quoted (s : String) : List Char :=
  '"' :: (s.toList.flatMap escaped ++ ['"'])

mutual

/-- The compact text of a value. -/
def chars : Json → List Char
  | null => "null".toList
  | bool true => "true".toList
  | bool false => "false".toList
  | number n => n.text
  | string s => quoted s
  | array [] => ['[', ']']
  | array (item :: rest) => '[' :: (item.chars ++ itemChars rest)
  | object [] => ['{', '}']
  | object ((name, value) :: rest) =>
    '{' :: (quoted name ++ ':' :: (value.chars ++ memberChars rest))

/-- The further items of an array and its end. -/
def itemChars : List Json → List Char
  | [] => [']']
  | item :: rest => ',' :: (item.chars ++ itemChars rest)

/-- The further members of an object and its end. -/
def memberChars : List (String × Json) → List Char
  | [] => ['}']
  | (name, value) :: rest => ',' :: (quoted name ++ ':' :: (value.chars ++ memberChars rest))

end

def compact (j : Json) : String :=
  String.ofList j.chars

end Json

end PolicyGuard
