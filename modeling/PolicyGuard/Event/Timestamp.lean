import PolicyGuard.Number.Decimal
import PolicyGuard.Text.Blank
import PolicyGuard.Text.Lowercase
import PolicyGuard.Text.Scan

/-!
Points in time in UTC, with nanoseconds.

`Timestamp.read?` takes a date, a time of day and an offset, with blanks before
each number and separator, and moves to UTC. `Timestamp.text` writes as many
digits of a second as are needed, in threes. A second 60 stands for a leap second.
-/

namespace PolicyGuard

structure Date where
  year : Int
  month : Nat
  day : Nat
  deriving DecidableEq, Repr

structure Timestamp where
  date : Date
  hour : Nat
  minute : Nat
  second : Nat
  nanosecond : Nat
  deriving DecidableEq, Repr

/-! ## Dates -/

def isLeapYear (year : Int) : Bool :=
  year % 4 = 0 && (year % 100 ≠ 0 || year % 400 = 0)

def daysInMonth (year : Int) (month : Nat) : Nat :=
  if month = 2 then (if isLeapYear year then 29 else 28)
  else if month = 4 || month = 6 || month = 9 || month = 11 then 30
  else 31

namespace Date

/-- The years that there are. -/
def hasYear (d : Date) : Bool :=
  -262143 ≤ d.year && d.year ≤ 262142

def isValid (d : Date) : Bool :=
  d.hasYear && 1 ≤ d.month && d.month ≤ 12 && 1 ≤ d.day && d.day ≤ daysInMonth d.year d.month

def next (d : Date) : Date :=
  if d.day < daysInMonth d.year d.month then { d with day := d.day + 1 }
  else if d.month < 12 then ⟨d.year, d.month + 1, 1⟩
  else ⟨d.year + 1, 1, 1⟩

def previous (d : Date) : Date :=
  if 1 < d.day then { d with day := d.day - 1 }
  else if 1 < d.month then ⟨d.year, d.month - 1, daysInMonth d.year (d.month - 1)⟩
  else ⟨d.year - 1, 12, 31⟩

end Date

namespace Timestamp

def isValid (t : Timestamp) : Bool :=
  t.date.isValid && t.hour ≤ 23 && t.minute ≤ 59 && t.second ≤ 60 && t.nanosecond < 1000000000

/-- The same point in UTC, for a clock that is `offset` minutes ahead of it. -/
def toUtc (t : Timestamp) (offset : Int) : Timestamp :=
  let minutes : Int := t.hour * 60 + t.minute - offset
  let date :=
    if minutes < 0 then t.date.previous
    else if 24 * 60 ≤ minutes then t.date.next
    else t.date
  let ofDay := (minutes % (24 * 60)).toNat
  { t with date, hour := ofDay / 60, minute := ofDay % 60 }

/-! ## Reading -/

/-- Takes digits, at least one and no more than `width`. -/
def takeNumber? (width : Nat) (cs : List Char) : Option (Nat × List Char) :=
  let digits := (cs.take width).takeWhile Char.isDigit
  if digits.isEmpty then none else some (digitsValue digits, cs.drop digits.length)

/-- A number of at most two digits, with blanks in front of it. -/
def takePart? (cs : List Char) : Option (Nat × List Char) :=
  takeNumber? 2 (Text.skipBlanks cs)

/-- A separator with blanks in front of it. -/
def takeMark? (mark : Char) (cs : List Char) : Option (List Char) :=
  Text.after? [mark] (Text.skipBlanks cs)

/-- A year: four digits, or any number of them after a sign. -/
def takeYear? (cs : List Char) : Option (Int × List Char) :=
  match Text.skipBlanks cs with
  | '-' :: rest => (takeNumber? rest.length rest).map fun p => (-(p.1 : Int), p.2)
  | '+' :: rest => (takeNumber? rest.length rest).map fun p => ((p.1 : Int), p.2)
  | rest => (takeNumber? 4 rest).map fun p => ((p.1 : Int), p.2)

def takeDate? (cs : List Char) : Option (Date × List Char) := do
  let (year, cs) ← takeYear? cs
  let (month, cs) ← takePart? (← takeMark? '-' cs)
  let (day, cs) ← takePart? (← takeMark? '-' cs)
  return (⟨year, month, day⟩, cs)

/-- The nanoseconds after a point; further digits do not count. -/
def takeFraction? : List Char → Option (Nat × List Char)
  | '.' :: rest => do
    let digits := (rest.take 9).takeWhile Char.isDigit
    let (n, rest) ← takeNumber? 9 rest
    return (n * Nat.pow 10 (9 - digits.length), rest.dropWhile Char.isDigit)
  | rest => some (0, rest)

/-- Two digits, the first of them not above `most`. -/
def takeTwo? (most : Char) : List Char → Option (Nat × List Char)
  | a :: b :: rest =>
    if a.isDigit && b.isDigit && a ≤ most then some (digitsValue [a, b], rest) else none
  | _ => none

/-- An offset from UTC in minutes. -/
def takeOffset? (cs : List Char) : Option (Int × List Char) :=
  if Text.lowerAscii (String.ofList (cs.take 3)) = "utc" then some (0, cs.drop 3)
  else
    match cs with
    | [] => none
    | sign :: rest =>
      if sign = 'Z' || sign = 'z' then some (0, rest)
      else if sign = '+' || sign = '-' || sign = '−' then do
        let (hours, rest) ← takeTwo? '9' rest
        let (minutes, rest) ← takeTwo? '5' (rest.dropWhile fun c => c = ':' || Text.isBlank c)
        let offset : Int := hours * 60 + minutes
        return (if sign = '+' then offset else -offset, rest)
      else none

/-- What follows the sign between a date and a time. -/
def afterDate? : List Char → Option (List Char)
  | c :: rest => if c = 'T' || c = 't' || c = ' ' then some rest else none
  | [] => none

def read? (s : String) : Option Timestamp := do
  let (date, cs) ← takeDate? s.toList
  let (hour, cs) ← takePart? (← afterDate? cs)
  let (minute, cs) ← takePart? (← takeMark? ':' cs)
  let (second, cs) ← takePart? (← takeMark? ':' cs)
  let (nanosecond, cs) ← takeFraction? cs
  let (offset, cs) ← takeOffset? (Text.skipBlanks cs)
  let t : Timestamp := ⟨date, hour, minute, second, nanosecond⟩
  let utc := t.toUtc offset
  if (Text.skipBlanks cs).isEmpty && t.isValid && offset.natAbs < 24 * 60 && utc.date.hasYear then
    some utc
  else none

/-! ## Writing -/

/-- A number with zeros in front, up to a width. -/
def padded (width n : Nat) : List Char :=
  let ds := Binary64.digitsOf n
  List.replicate (width - ds.length) '0' ++ ds

/-- Years beyond four digits have a sign. -/
def yearText (year : Int) : List Char :=
  if 0 ≤ year && year ≤ 9999 then padded 4 year.natAbs
  else (if year < 0 then '-' else '+') :: padded 4 year.natAbs

def fractionText (nanosecond : Nat) : List Char :=
  if nanosecond = 0 then []
  else if nanosecond % 1000000 = 0 then '.' :: padded 3 (nanosecond / 1000000)
  else if nanosecond % 1000 = 0 then '.' :: padded 6 (nanosecond / 1000)
  else '.' :: padded 9 nanosecond

def text (t : Timestamp) : String :=
  String.ofList (yearText t.date.year ++ '-' :: padded 2 t.date.month ++ '-' ::
    padded 2 t.date.day ++ 'T' :: padded 2 t.hour ++ ':' :: padded 2 t.minute ++ ':' ::
    padded 2 t.second ++ fractionText t.nanosecond ++ ['Z'])

end Timestamp

end PolicyGuard
