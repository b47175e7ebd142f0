import PolicyGuard.Gate.Component
import PolicyGuard.Json.Text

/-!
Entities: extra attributes by component name. Of entities with the same id the
last one counts.
-/

namespace PolicyGuard.Gate

abbrev Entities := Table (List (String × Json))

namespace Entities

/-- The id of an entity: given by name, by a record with an id, or as any other value. -/
def id? (entity : Json) : Option String :=
  let id := match entity.get? "uid" with
    | some (.object uid) => (Table.get? "id" uid).bind Json.string?
    | some (.string s) => some s
    | some .null => none
    | some other => some other.compact
    | none => none
  id.filter (· ≠ "")

def attributes (entity : Json) : List (String × Json) :=
  match entity.get? "attrs" with
  | some (.object members) => members
  | _ => []

/-- The entities of a document. -/
def ofJson (doc : Json) : Entities :=
  match doc.get? "entities" with
  | some (.array items) =>
    Table.ofList (items.filterMap fun e => (id? e).map fun id => (id, attributes e))
  | _ => []

def load (files : FileTree) (path : String) : Except InputError Entities :=
  (readJson files path).map ofJson

end Entities

end PolicyGuard.Gate
