import PolicyGuard.Number.Decimal

/-!
Whole numbers of 64 bits, as text writes them.
-/

namespace PolicyGuard

/-- The range of a signed 64-bit number. -/
def inInt64 (i : Int) : Bool :=
  -9223372036854775808 ≤ i && i ≤ 9223372036854775807

/-- The whole number that a text writes: digits after an optional sign, in range. -/
def readInt64? (text : List Char) : Option Int :=
  let (negative, digits) :=
    match text with
    | '-' :: rest => (true, rest)
    | '+' :: rest => (false, rest)
    | rest => (false, rest)
  if digits.isEmpty || !digits.all Char.isDigit then none
  else
    let i : Int := if negative then -(digitsValue digits : Int) else digitsValue digits
    if inInt64 i then some i else none

end PolicyGuard
