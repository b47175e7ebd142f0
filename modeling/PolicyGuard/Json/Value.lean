import PolicyGuard.Table
import PolicyGuard.Number.Binary64

/-!
JSON values. A value that was read lists the members of an object by name, each
name once; a record that is to be written lists them in an order of its own.
-/

namespace PolicyGuard

/-- A number is a whole one from -2^63 up to 2^64 - 1, or a floating point one. -/
inductive Json.Number where
  | whole (i : Int)
  | float (x : Binary64)
  deriving DecidableEq, Repr

inductive Json where
  | null
  | bool (b : Bool)
  | number (n : Json.Number)
  | string (s : String)
  | array (items : List Json)
  | object (members : List (String × Json))
  deriving Repr

namespace Json

instance : Inhabited Json := ⟨null⟩

/-- The floating point view of a number. -/
def Number.toBinary64 : Number → Binary64
  | whole i => .ofInt i
  | float x => x

def ofNat (n : Nat) : Json :=
  number (.whole n)

/-- The member of an object with this name. -/
def get? (name : String) : Json → Option Json
  | object members => Table.get? name members
  | _ => none

def string? : Json → Option String
  | string s => some s
  | _ => none

end Json

end PolicyGuard
