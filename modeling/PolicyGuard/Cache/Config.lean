import PolicyGuard.Number.Binary64

/-!
Settings of a policy cache, with times in milliseconds.

* a refresh interval is never shorter than 10 ms;
* a tolerance of zero is none;
* `due?` and `grace?` have no value where the clock or a span cannot hold it.
-/

namespace PolicyGuard.Cache

structure Config where
  refreshInterval : Nat
  staleTolerance : Option Nat
  deriving DecidableEq, Repr

namespace Config

/-- A minute between refreshes, and five minutes before an answer is too old. -/
def default : Config :=
  ⟨60 * 1000, some (300 * 1000)⟩

instance : Inhabited Config := ⟨default⟩

def shortestInterval : Nat := 10

def interval (c : Config) : Nat :=
  max c.refreshInterval shortestInterval

def tolerance (c : Config) : Option Nat :=
  c.staleTolerance.filter (0 < ·)

/-- A clock holds whole seconds up to 2^63. -/
def clockLimit : Nat := Nat.pow 2 63 * 1000

/-- A span holds whole seconds up to 2^64. -/
def spanLimit : Nat := Nat.pow 2 64 * 1000

/-- When the next refresh is due. -/
def due? (c : Config) (now : Nat) : Option Nat :=
  let due := now + c.interval
  if due < clockLimit then some due else none

/-- How long to wait for the worker to end. -/
def grace? (c : Config) : Option Nat :=
  let grace := c.interval + 1000
  if grace < spanLimit then some grace else none

end Config

/-- A span in whole seconds, a half to the even one. -/
def seconds (span : Nat) : Nat :=
  roundToEven span 1000

/-- An age in whole seconds. The clock has moved on when it is read, so a half goes up. -/
def ageSeconds (age : Nat) : Nat :=
  (age + 500) / 1000

end PolicyGuard.Cache
