/-!
Hexadecimal digits. Reading takes both cases, writing gives lower case.
-/

namespace PolicyGuard.Text

/-- One lower-case hexadecimal digit. -/
def hexDigit (n : Nat) : Char :=
  Nat.digitChar n

def hexValue? (c : Char) : Option Nat :=
  if c.isDigit then some (c.toNat - '0'.toNat)
  else if 'a' ≤ c && c ≤ 'f' then some (c.toNat - 'a'.toNat + 10)
  else if 'A' ≤ c && c ≤ 'F' then some (c.toNat - 'A'.toNat + 10)
  else none

/-- The number that hexadecimal digits write. -/
def hexNumber? (cs : List Char) : Option Nat :=
  cs.foldl (fun n c => do return 16 * (← n) + (← hexValue? c)) (some 0)

/-- Rows of numbers: commas part the rows, and blanks or line ends the numbers. -/
def hexRows (text : String) : List (List Nat) :=
  (text.toList.splitOn ',').map fun row =>
    (row.splitOnP fun c => c = ' ' || c = '\n').filterMap fun digits =>
      if digits.isEmpty then none else hexNumber? digits

theorem hexValue?_hexDigit {n : Nat} (h : n < 16) : hexValue? (hexDigit n) = some n := by
  revert n
  decide

end PolicyGuard.Text
