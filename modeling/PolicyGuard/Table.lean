/-!
Named values in the order of their names, each name once. `Table.put` replaces
the value of a name that is there already.
-/

namespace PolicyGuard

/-- Named values, sorted by name. -/
abbrev Table (α : Type) := List (String × α)

namespace Table

variable {α : Type}

/-- Gives `name` the value, in its place. -/
def put (name : String) (value : α) : Table α → Table α
  | [] => [(name, value)]
  | (key, old) :: rest =>
    if name = key then (name, value) :: rest
    else if name < key then (name, value) :: (key, old) :: rest
    else (key, old) :: put name value rest

def get? (name : String) : Table α → Option α
  | [] => none
  | (key, value) :: rest => if name = key then some value else get? name rest

def has (name : String) (t : Table α) : Bool :=
  (t.get? name).isSome

/-- The table of a list of pairs; the last value of a name counts. -/
def ofList (pairs : List (String × α)) : Table α :=
  pairs.foldl (fun t p => t.put p.1 p.2) []

theorem get?_put (name other : String) (value : α) (t : Table α) :
    (t.put name value).get? other = if other = name then some value else t.get? other := by
  induction t with
  | nil => simp [put, get?]
  | cons pair rest ih =>
    obtain ⟨key, old⟩ := pair
    unfold put
    split
    case isTrue h =>
      subst h
      by_cases ho : other = name <;> simp [get?, ho]
    case isFalse h =>
      split
      · simp [get?]
      · by_cases ho : other = key
        · subst ho
          simp [get?, Ne.symm h]
        · simp [get?, ho, ih]

end Table

end PolicyGuard
