import PolicyGuard.Number.Binary64

/-!
TOML values. A table remembers how it was made, since that decides what may still
be added to it.
-/

namespace PolicyGuard.Toml

inductive TableKind where
  /-- Made by a header of its own. -/
  | header
  /-- Made on the way to the table of a longer header. -/
  | implicit
  /-- Made by a key with dots. -/
  | dotted
  /-- Written in braces. -/
  | inline
  deriving DecidableEq, Repr

end Toml

inductive Toml where
  | string (s : String)
  | integer (i : Int)
  | float (x : Binary64)
  | boolean (b : Bool)
  | dateTime (text : String)
  | array (items : List Toml)
  | table (kind : Toml.TableKind) (members : List (String × Toml))
  /-- Tables under one header that comes again and again. -/
  | tables (items : List (List (String × Toml)))
  deriving Repr

namespace Toml

instance : Inhabited Toml := ⟨boolean false⟩

abbrev Members := List (String × Toml)

/-- Puts a value in the place of the old one, or at the end. -/
def Members.put (name : String) (value : Toml) : Members → Members
  | [] => [(name, value)]
  | (key, old) :: rest =>
    if key = name then (name, value) :: rest else (key, old) :: Members.put name value rest

end Toml

end PolicyGuard
