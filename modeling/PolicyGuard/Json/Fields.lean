import PolicyGuard.Json.Document

/-!
Reading records and other fixed shapes from documents.

A record is written as an object or as the array of its fields in order. A field
may occur once, unknown ones are skipped, and an array may end early where the
fields left over have a default.
-/

namespace PolicyGuard.Json

/-- What a reader gets for each declared field, in order; `none` where it is absent. -/
abbrev Fields := List (Option Document)

namespace Document

/-- The documents of a member name; two are too many. -/
def single? (name : String) (members : List (Option String × Document)) :
    Option (Option Document) :=
  match members.filter (·.1 = some name) with
  | [] => some none
  | [member] => some (some member.2)
  | _ => none

/-- The declared fields of a record, where it is one. -/
def fields? (names : List String) : Document → Option Fields
  | .object members =>
    if members.all (·.1.isSome) then names.mapM (single? · members) else none
  | .array items =>
    if items.length ≤ names.length then
      some (items.map some ++ List.replicate (names.length - items.length) none)
    else none
  | _ => none

def string? : Document → Option String
  | .string s => s
  | _ => none

def bool? : Document → Option Bool
  | .bool b => some b
  | _ => none

/-- The name of one of a few alternatives, alone or as the name of an empty member. -/
def choice? : Document → Option String
  | .string s => s
  | .object [(some name, .null)] => some name
  | _ => none

end Document

/-- A field that has to be there. -/
def required? {α : Type} (read : Document → Option α) (field : Option Document) : Option α :=
  field.bind read

/-- A field that may be absent. -/
def orDefault? {α : Type} (default : α) (read : Document → Option α) :
    Option Document → Option α
  | none => some default
  | some d => read d

end PolicyGuard.Json
