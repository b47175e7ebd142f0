import PolicyGuard.Number.Binary64

/-!
Decimal text of numbers, both ways.

* `Decimal.read?` reads the usual spellings of a number, `Decimal.toBinary64`
  takes the nearest binary number to it;
* `Binary64.shortest` is the fewest decimal digits that read back as the number;
* `Binary64.plain` writes them without an exponent.
-/

namespace PolicyGuard

/-- A decimal `± mantissa * 10^exponent`. -/
structure Decimal where
  negative : Bool
  mantissa : Nat
  exponent : Int
  deriving DecidableEq, Repr

def digitValue (c : Char) : Nat :=
  c.toNat - '0'.toNat

/-- The number written by a row of decimal digits. -/
def digitsValue (cs : List Char) : Nat :=
  cs.foldl (fun n c => 10 * n + digitValue c) 0

namespace Decimal

/-- The nearest binary number. The two bounds settle, without large powers,
what is far out of range. -/
def toBinary64 (d : Decimal) : Binary64 :=
  if d.mantissa = 0 then .finite d.negative 0
  else
    match d.exponent with
    | .ofNat e =>
      if 1024 ≤ d.mantissa.log2 + 3 * e then .infinite d.negative
      else .ofRatio d.negative (d.mantissa * Nat.pow 10 e) 1
    | .negSucc e =>
      if d.mantissa.log2 + 1076 < 3 * (e + 1) then .finite d.negative 0
      else .ofRatio d.negative d.mantissa (Nat.pow 10 (e + 1))

/-- An exponent such as `e-7`, or nothing at all. -/
def exponent? : List Char → Option Int
  | [] => some 0
  | c :: rest =>
    if c = 'e' || c = 'E' then
      let (negative, digits) :=
        match rest with
        | '+' :: ds => (false, ds)
        | '-' :: ds => (true, ds)
        | ds => (false, ds)
      if digits.isEmpty || !digits.all Char.isDigit then none
      else some (if negative then -(digitsValue digits : Int) else digitsValue digits)
    else none

/-- A number without its sign: digits with a point anywhere among them, and an exponent. -/
def unsigned? (negative : Bool) (cs : List Char) : Option Decimal :=
  let whole := cs.takeWhile Char.isDigit
  let (fraction, rest) :=
    match cs.dropWhile Char.isDigit with
    | '.' :: ds => (ds.takeWhile Char.isDigit, ds.dropWhile Char.isDigit)
    | ds => ([], ds)
  if whole.isEmpty && fraction.isEmpty then none
  else (exponent? rest).map fun e =>
    ⟨negative, digitsValue (whole ++ fraction), e - fraction.length⟩

end Decimal

namespace Binary64

/-- The words for an infinity and for what is no number. -/
def special? (negative : Bool) (cs : List Char) : Option Binary64 :=
  let word := cs.map Char.toLower
  if word = "inf".toList || word = "infinity".toList then some (.infinite negative)
  else if word = "nan".toList then some .nan
  else none

/-- The number that a text spells, with an optional sign. -/
def read? (text : List Char) : Option Binary64 :=
  let (negative, cs) :=
    match text with
    | '-' :: rest => (true, rest)
    | '+' :: rest => (false, rest)
    | rest => (false, rest)
  (special? negative cs).or ((Decimal.unsigned? negative cs).map Decimal.toBinary64)

/-- Which of two equally near digit strings is taken. -/
inductive Tie where
  | up
  | even
  deriving DecidableEq, Repr

/-- The point of the grid of multiples of `unit` that is nearest to `num / den`
among the two next to it that satisfy `inside`. -/
def gridPoint? (tie : Tie) (inside : Nat → Bool) (num den : Nat) : Option Nat :=
  let below := num / den
  let twice := 2 * (num % den)
  let upper : Bool := match tie with
    | .up => den ≤ twice
    | .even => den < twice || (den = twice && below % 2 = 1)
  let choice := if upper then (below + 1, below) else (below, below + 1)
  if inside choice.1 then some choice.1
  else if inside choice.2 then some choice.2
  else none

/-- `m` without its trailing zeros, whose number is added to the exponent. -/
def dropZeros : Nat → Nat → Int → Nat × Int
  | 0, m, e => (m, e)
  | fuel + 1, m, e => if m ≠ 0 && m % 10 = 0 then dropZeros fuel (m / 10) (e + 1) else (m, e)

/-- The first grid, from coarse to fine, with a point that reads back as the number. -/
def firstHit (tie : Tie) (steps : Nat) : Nat → Int → Option (Nat × Int)
  | 0, _ => none
  | fuel + 1, e =>
    let unit := spacing steps
    let half := 2 * unit
    let lowHalf := if steps = Nat.pow 2 steps.log2 && 52 < steps.log2 then unit else half
    let closed := (steps / unit) % 2 = 0
    let grow := Nat.pow 10 e.toNat
    let shrink := Nat.pow 10 (-e).toNat
    let inside (m : Nat) : Bool :=
      let point := 4 * m * grow * scale
      let low := (4 * steps - lowHalf) * shrink
      let high := (4 * steps + half) * shrink
      if closed then low ≤ point && point ≤ high else low < point && point < high
    match gridPoint? tie inside (steps * shrink) (grow * scale) with
    | some m => some (m, e)
    | none => firstHit tie steps fuel (e - 1)

/-- The decimal exponent of the leading digit, never too small. -/
def leading (steps : Nat) : Int :=
  ((steps.log2 : Int) - 1074) * 30103 / 100000 + 1

/-- The fewest digits, and their power of ten, that read back as a finite size. -/
def shortest (tie : Tie) (steps : Nat) : Nat × Int :=
  if steps = 0 then (0, 0)
  else
    match firstHit tie steps 20 (leading steps) with
    | some (m, e) => dropZeros 20 m e
    | none => (0, 0)

def digitsOf (n : Nat) : List Char :=
  Nat.toDigits 10 n

/-- A decimal without an exponent. -/
def positional (digits : Nat) (exponent : Int) : List Char :=
  let ds := digitsOf digits
  let point := (ds.length : Int) + exponent
  if 0 ≤ exponent then ds ++ List.replicate exponent.toNat '0'
  else if 0 < point then ds.take point.toNat ++ '.' :: ds.drop point.toNat
  else '0' :: '.' :: (List.replicate (-point).toNat '0' ++ ds)

/-- The plain text of a number: shortest digits, no exponent, no empty fraction. -/
def plain (x : Binary64) : String :=
  match x with
  | .nan => "NaN"
  | .infinite negative => if negative then "-inf" else "inf"
  | .finite negative steps =>
    let (m, e) := shortest .up steps
    String.ofList ((if negative then ['-'] else []) ++ positional m e)

end Binary64

end PolicyGuard
