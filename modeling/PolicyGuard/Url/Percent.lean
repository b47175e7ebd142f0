import PolicyGuard.Text.Hex

/-!
Percent encoding of text, byte by byte of its UTF-8 form.
-/

namespace PolicyGuard.Url

/-- The bytes of a character. -/
def utf8 (c : Char) : List Nat :=
  (String.ofList [c]).toUTF8.toList.map UInt8.toNat

/-- One upper-case hexadecimal digit. -/
def upperHex (n : Nat) : Char :=
  (Nat.digitChar n).toUpper

def percentByte (n : Nat) : List Char :=
  ['%', upperHex (n / 16), upperHex (n % 16)]

/-- Control characters and all that is not ASCII. -/
def isControl (c : Char) : Bool :=
  c.toNat < 0x20 || 0x7E < c.toNat

/-- The characters that a path segment does not show as they are. -/
def isHiddenInPath (c : Char) : Bool :=
  isControl c || c = ' ' || c = '"' || c = '#' || c = '<' || c = '>' || c = '?' || c = '`' ||
    c = '\x7b' || c = '\x7d'

/-- The text with the characters that `hidden` selects as percent triplets. -/
def percentEncode (hidden : Char → Bool) (cs : List Char) : List Char :=
  cs.flatMap fun c => if hidden c then (utf8 c).flatMap percentByte else [c]

/-- The bytes that a text stands for, with its percent triplets resolved. -/
def percentDecode : List Char → List Nat
  | '%' :: a :: b :: rest =>
    match Text.hexValue? a, Text.hexValue? b with
    | some x, some y => (16 * x + y) :: percentDecode rest
    | _, _ => utf8 '%' ++ percentDecode (a :: b :: rest)
  | c :: rest => utf8 c ++ percentDecode rest
  | [] => []

end PolicyGuard.Url
