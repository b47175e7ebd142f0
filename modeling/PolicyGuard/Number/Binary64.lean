/-!
Binary floating point with 53 significant bits, in exact natural arithmetic.

* `Binary64.ofRatio` is the nearest number to a quotient, ties to even;
* `Binary64.compare?` orders numbers and leaves a NaN incomparable, also with itself.
-/

namespace PolicyGuard

/-- A floating point number. The size of a finite one counts steps of 2^-1074,
the smallest step there is. -/
inductive Binary64 where
  | nan
  | infinite (negative : Bool)
  | finite (negative : Bool) (steps : Nat)
  deriving DecidableEq, Repr

/-- The quotient rounded to the nearest natural number, a half to the even one. -/
def roundToEven (num den : Nat) : Nat :=
  let q := num / den
  let twice := 2 * (num % den)
  if twice < den || (twice = den && q % 2 = 0) then q else q + 1

namespace Binary64

/-- The smallest step is 2^-1074. -/
def scale : Nat := Nat.pow 2 1074

/-- Sizes from 2^1024 on are infinite. -/
def overflow : Nat := Nat.pow 2 2098

/-- The distance between the numbers around a size: 53 bits are kept. -/
def spacing (steps : Nat) : Nat :=
  Nat.pow 2 (steps.log2 - 52)

/-- The number nearest to `num / den`. -/
def ofRatio (negative : Bool) (num den : Nat) : Binary64 :=
  let unit := spacing (num * scale / den)
  let steps := roundToEven (num * scale) (den * unit) * unit
  if steps < overflow then .finite negative steps else .infinite negative

def ofNat (n : Nat) : Binary64 :=
  ofRatio false n 1

def ofInt (i : Int) : Binary64 :=
  ofRatio (i < 0) i.natAbs 1

def neg : Binary64 → Binary64
  | nan => nan
  | infinite s => infinite !s
  | finite s n => finite (!s) n

/-- The nearest number to `x * 10^exponent` for the size `steps` of `x`, by one
multiplication or division with the power of ten as the nearest number to it. -/
def timesPowerOfTen (steps exponent : Nat) : Binary64 :=
  match ofNat (Nat.pow 10 exponent) with
  | .finite _ power => ofRatio false (steps * power) (scale * scale)
  | other => other

def overPowerOfTen (steps exponent : Nat) : Binary64 :=
  match ofNat (Nat.pow 10 exponent) with
  | .finite _ power => ofRatio false steps power
  | _ => .finite false 0

def isFinite : Binary64 → Bool
  | finite _ _ => true
  | _ => false

/-- The signed size of a finite number in steps. -/
def signed (negative : Bool) (steps : Nat) : Int :=
  if negative then -(steps : Int) else steps

/-- The order of two numbers. A NaN has none, and the two zeros are equal. -/
def compare? : Binary64 → Binary64 → Option Ordering
  | nan, _ => none
  | _, nan => none
  | infinite s, infinite t => some (compare t.toNat s.toNat)
  | infinite s, finite _ _ => some (if s then .lt else .gt)
  | finite _ _, infinite t => some (if t then .gt else .lt)
  | finite s m, finite t n => some (compare (signed s m) (signed t n))

end Binary64

end PolicyGuard
