import PolicyGuard.Event.Timestamp
import PolicyGuard.Number.Int64
import PolicyGuard.Text.Hex
import PolicyGuard.Toml.Value

/-!
Strings, numbers and dates of TOML.
-/

namespace PolicyGuard.Toml

/-! ## Characters -/

def isBlankSpace (c : Char) : Bool :=
  c = ' ' || c = '\t'

def skipSpaces (cs : List Char) : List Char :=
  cs.dropWhile isBlankSpace

/-- Characters that may stand in a comment or a string. -/
def isPlain (c : Char) : Bool :=
  c = '\t' || (' ' ≤ c && c ≤ '~') || 128 ≤ c.val

/-- The rest after the end of a line. -/
def afterNewline? : List Char → Option (List Char)
  | '\n' :: rest => some rest
  | '\x0d' :: '\n' :: rest => some rest
  | _ => none

/-! ## Strings -/

/-- A character by its code point in digits. -/
def charOf? (digits : List Char) : Option Char := do
  let n ← Text.hexNumber? digits
  if n.isValidChar then return Char.ofNat n else none

/-- The character of an escape, from after the backslash on. -/
def readEscape? : List Char → Option (Char × List Char)
  | 'b' :: rest => some ('\x08', rest)
  | 't' :: rest => some ('\t', rest)
  | 'n' :: rest => some ('\n', rest)
  | 'f' :: rest => some ('\x0c', rest)
  | 'r' :: rest => some ('\x0d', rest)
  | '"' :: rest => some ('"', rest)
  | '\\' :: rest => some ('\\', rest)
  | 'u' :: rest =>
    if (rest.take 4).length = 4 then (charOf? (rest.take 4)).map (·, rest.drop 4) else none
  | 'U' :: rest =>
    if (rest.take 8).length = 8 then (charOf? (rest.take 8)).map (·, rest.drop 8) else none
  | _ => none

/-- The text up to the closing quote; `escapes` says whether a backslash starts one. -/
def readLine? (quote : Char) (escapes : Bool) : Nat → List Char → Option (List Char × List Char)
  | 0, _ => none
  | n + 1, cs =>
    match cs with
    | [] => none
    | c :: rest =>
      if c = quote then some ([], rest)
      else if escapes && c = '\\' then do
        let (c, rest) ← readEscape? rest
        let (text, tail) ← readLine? quote escapes n rest
        return (c :: text, tail)
      else if isPlain c then do
        let (text, tail) ← readLine? quote escapes n rest
        return (c :: text, tail)
      else none

/-- Whether only blanks are left on a line that goes on. -/
def isLineBreak (cs : List Char) : Bool :=
  (afterNewline? (skipSpaces cs)).isSome

/-- Skips blanks and ends of lines. -/
def skipLines : Nat → List Char → List Char
  | 0, cs => cs
  | n + 1, cs =>
    match afterNewline? (skipSpaces cs) with
    | some rest => skipLines n rest
    | none => skipSpaces cs

/-- The text up to three closing quotes. Up to two quotes may stand before them. -/
def readLines? (quote : Char) (escapes : Bool) : Nat → List Char → Option (List Char × List Char)
  | 0, _ => none
  | n + 1, cs =>
    match afterNewline? cs, cs with
    | some rest, _ => do
      let (text, tail) ← readLines? quote escapes n rest
      return ('\n' :: text, tail)
    | none, [] => none
    | none, c :: rest =>
      if c = quote then
        let quotes := cs.takeWhile (· = quote)
        let more := cs.dropWhile (· = quote)
        if 3 ≤ quotes.length then
          some (List.replicate (min quotes.length 5 - 3) quote,
            List.replicate (quotes.length - 5) quote ++ more)
        else do
          let (text, tail) ← readLines? quote escapes n more
          return (quotes ++ text, tail)
      else if escapes && c = '\\' then
        if isLineBreak rest then readLines? quote escapes n (skipLines rest.length rest)
        else do
          let (c, rest) ← readEscape? rest
          let (text, tail) ← readLines? quote escapes n rest
          return (c :: text, tail)
      else if isPlain c then do
        let (text, tail) ← readLines? quote escapes n rest
        return (c :: text, tail)
      else none

/-- A string from after its first quote on. A line end right after three opening
quotes does not count. -/
def readString? (quote : Char) (rest : List Char) : Option (String × List Char) :=
  let escapes := quote = '"'
  let text := match rest with
    | a :: b :: tail =>
      if a = quote && b = quote then
        let tail := (afterNewline? tail).getD tail
        readLines? quote escapes (tail.length + 1) tail
      else readLine? quote escapes (rest.length + 1) rest
    | _ => readLine? quote escapes (rest.length + 1) rest
  text.map fun p => (String.ofList p.1, p.2)

/-! ## Numbers -/

/-- Digits without the underscores between them, all of which lie between two digits. -/
def digits? (isDigit : Char → Bool) (cs : List Char) : Option (List Char) :=
  let groups := cs.splitOn '_'
  if groups.all fun g => !g.isEmpty && g.all isDigit then some groups.flatten else none

/-- Decimal digits without a zero in front of others. -/
def wholeDigits? (cs : List Char) : Option (List Char) := do
  let ds ← digits? Char.isDigit cs
  if ds.head? = some '0' && 1 < ds.length then none else return ds

/-- A sign and what follows it. -/
def splitSign : List Char → Option Bool × List Char
  | '+' :: rest => (some false, rest)
  | '-' :: rest => (some true, rest)
  | rest => (none, rest)

/-- The digits of another base as a number. -/
def baseNumber? (base : Nat) (cs : List Char) : Option Nat := do
  let ds ← digits? (fun c => (Text.hexValue? c).any (· < base)) cs
  return ds.foldl (fun n c => base * n + (Text.hexValue? c).getD 0) 0

def integer? (token : List Char) : Option Int := do
  let i ← match token with
    | '0' :: 'x' :: rest => (baseNumber? 16 rest).map Int.ofNat
    | '0' :: 'o' :: rest => (baseNumber? 8 rest).map Int.ofNat
    | '0' :: 'b' :: rest => (baseNumber? 2 rest).map Int.ofNat
    | _ =>
      let (sign, rest) := splitSign token
      (wholeDigits? rest).map fun ds =>
        if sign = some true then -(digitsValue ds : Int) else digitsValue ds
  if inInt64 i then return i else none

/-- The text of a floating point number without its underscores. -/
def floatText? (cs : List Char) : Option (List Char) := do
  let isExponent (c : Char) : Bool := c = 'e' || c = 'E'
  let mantissa := cs.takeWhile fun c => !isExponent c
  let exponent ← match cs.dropWhile fun c => !isExponent c with
    | [] => some []
    | _ :: power =>
      let (sign, power) := splitSign power
      (digits? Char.isDigit power).map fun ds => 'e' :: (if sign = some true then '-' :: ds else ds)
  let whole ← wholeDigits? (mantissa.takeWhile (· ≠ '.'))
  match mantissa.dropWhile (· ≠ '.') with
  | [] => if exponent.isEmpty then none else return whole ++ exponent
  | _ :: fraction => return whole ++ '.' :: (← digits? Char.isDigit fraction) ++ exponent

/-- A floating point number. One that is too large has to be written as an infinity. -/
def float? (token : List Char) : Option Binary64 :=
  let (sign, rest) := splitSign token
  let negative := sign = some true
  if rest = "inf".toList then some (.infinite negative)
  else if rest = "nan".toList then some .nan
  else do
    let x ← Binary64.read? (← floatText? rest)
    let x := if negative then x.neg else x
    if x = .infinite false then none else return x

/-! ## Dates -/

/-- A number of just these digits, in bounds. -/
def field? (width most : Nat) (cs : List Char) : Option (Nat × List Char) :=
  let ds := cs.take width
  let n := digitsValue ds
  if ds.length = width && ds.all Char.isDigit && n ≤ most then some (n, cs.drop width) else none

def after? (mark : Char) : List Char → Option (List Char)
  | c :: rest => if c = mark then some rest else none
  | [] => none

/-- The rest after a date. -/
def afterDate? (cs : List Char) : Option (List Char) := do
  let (year, cs) ← field? 4 9999 cs
  let (month, cs) ← field? 2 12 (← after? '-' cs)
  let (day, cs) ← field? 2 31 (← after? '-' cs)
  if (Date.mk year month day).isValid then return cs else none

/-- The rest after a time of day. -/
def afterTime? (cs : List Char) : Option (List Char) := do
  let (_, cs) ← field? 2 23 cs
  let (_, cs) ← field? 2 59 (← after? ':' cs)
  let (_, cs) ← field? 2 60 (← after? ':' cs)
  match cs with
  | '.' :: rest => if rest.head?.any Char.isDigit then return rest.dropWhile Char.isDigit else none
  | rest => return rest

/-- Whether a text is an offset from UTC, or nothing. -/
def isOffset : List Char → Bool
  | [] => true
  | c :: rest =>
    if c = 'Z' || c = 'z' then rest.isEmpty
    else if c = '+' || c = '-' then
      (do
        let (_, rest) ← field? 2 23 rest
        let (_, rest) ← field? 2 59 (← after? ':' rest)
        return rest.isEmpty : Option Bool) = some true
    else false

/-- Whether a token is a date, a time, or both. -/
def isDateTime (token : List Char) : Bool :=
  match afterDate? token with
  | some [] => true
  | some (c :: rest) =>
    (c = 'T' || c = 't' || c = ' ') && (match afterTime? rest with
      | some tail => isOffset tail
      | none => false)
  | none => afterTime? token = some []

end PolicyGuard.Toml
