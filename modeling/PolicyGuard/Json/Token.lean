import PolicyGuard.Text.Hex
import PolicyGuard.Text.Scan
import PolicyGuard.Number.Decimal

/-!
Tokens of JSON text. Strings and numbers keep what is written, so that a reader
which skips a value need not care whether it stands for anything.
-/

namespace PolicyGuard.Json

/-- A piece of a quoted text: a character, or the number of a `\u` escape. -/
inductive Unit16 where
  | char (c : Char)
  | escape (n : Nat)
  deriving DecidableEq, Repr

/-- A number as written. The parts are rows of digits. -/
structure Numeral where
  negative : Bool
  whole : List Char
  fraction : List Char
  exponent : Option (Bool × List Char)
  deriving DecidableEq, Repr

inductive Token where
  | openArray
  | closeArray
  | openObject
  | closeObject
  | comma
  | colon
  | null
  | bool (b : Bool)
  | numeral (n : Numeral)
  | string (units : List Unit16)
  deriving DecidableEq, Repr

/-- The four characters that may stand between tokens. -/
def isSpace (c : Char) : Bool :=
  c = ' ' || c = '\n' || c = '\t' || c = '\r'

/-- The character of a one-letter escape. -/
def escapeChar? (c : Char) : Option Char :=
  match c with
  | '"' => some '"'
  | '\\' => some '\\'
  | '/' => some '/'
  | 'b' => some '\x08'
  | 'f' => some '\x0c'
  | 'n' => some '\n'
  | 'r' => some '\r'
  | 't' => some '\t'
  | _ => none

/-- A quoted text after its first quote, and what follows the second one. -/
def readUnits? : List Char → Option (List Unit16 × List Char)
  | [] => none
  | '"' :: rest => some ([], rest)
  | '\\' :: 'u' :: a :: b :: c :: d :: rest => do
    let n ← Text.hexNumber? [a, b, c, d]
    let (units, tail) ← readUnits? rest
    return (.escape n :: units, tail)
  | '\\' :: e :: rest => do
    let c ← escapeChar? e
    let (units, tail) ← readUnits? rest
    return (.char c :: units, tail)
  | c :: rest =>
    if c.toNat < 0x20 || c = '\\' then none
    else do
      let (units, tail) ← readUnits? rest
      return (.char c :: units, tail)

/-- The digits of a fraction; a point demands at least one. -/
def readFraction? : List Char → Option (List Char × List Char)
  | '.' :: rest =>
    let digits := rest.takeWhile Char.isDigit
    if digits.isEmpty then none else some (digits, rest.dropWhile Char.isDigit)
  | rest => some ([], rest)

/-- The digits of an exponent, with whether it is negative. -/
def readExponent? : List Char → Option (Option (Bool × List Char) × List Char)
  | c :: rest =>
    if c = 'e' || c = 'E' then
      let (negative, tail) :=
        match rest with
        | '-' :: tail => (true, tail)
        | '+' :: tail => (false, tail)
        | tail => (false, tail)
      let digits := tail.takeWhile Char.isDigit
      if digits.isEmpty then none
      else some (some (negative, digits), tail.dropWhile Char.isDigit)
    else some (none, c :: rest)
  | [] => some (none, [])

/-- A number without its sign. A zero in front stands alone. -/
def readUnsigned? (negative : Bool) (cs : List Char) : Option (Numeral × List Char) := do
  let whole := cs.takeWhile Char.isDigit
  if whole.isEmpty || (whole.head? = some '0' && 1 < whole.length) then none
  else
    let (fraction, rest) ← readFraction? (cs.dropWhile Char.isDigit)
    let (exponent, rest) ← readExponent? rest
    return (⟨negative, whole, fraction, exponent⟩, rest)

/-- The first token of a text that starts with one, and the rest. -/
def readToken? (cs : List Char) : Option (Token × List Char) :=
  match cs with
  | [] => none
  | '[' :: rest => some (.openArray, rest)
  | ']' :: rest => some (.closeArray, rest)
  | '{' :: rest => some (.openObject, rest)
  | '}' :: rest => some (.closeObject, rest)
  | ',' :: rest => some (.comma, rest)
  | ':' :: rest => some (.colon, rest)
  | '"' :: rest => (readUnits? rest).map fun p => (.string p.1, p.2)
  | 'n' :: rest => (Text.after? "ull".toList rest).map (Token.null, ·)
  | 't' :: rest => (Text.after? "rue".toList rest).map (Token.bool true, ·)
  | 'f' :: rest => (Text.after? "alse".toList rest).map (Token.bool false, ·)
  | '-' :: rest => (readUnsigned? true rest).map fun p => (.numeral p.1, p.2)
  | rest => (readUnsigned? false rest).map fun p => (.numeral p.1, p.2)

/-- The tokens of a text of at most `n` characters. -/
def tokensWithin : Nat → List Char → Option (List Token)
  | _, [] => some []
  | 0, _ => none
  | n + 1, c :: cs =>
    if isSpace c then tokensWithin n cs
    else do
      let (token, rest) ← readToken? (c :: cs)
      return token :: (← tokensWithin n rest)

/-- The tokens of a text, where all of it is made of tokens and blanks. -/
def tokens? (cs : List Char) : Option (List Token) :=
  tokensWithin cs.length cs

end PolicyGuard.Json
