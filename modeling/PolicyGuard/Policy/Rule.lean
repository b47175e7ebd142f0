import PolicyGuard.Policy.Value
import PolicyGuard.Text.Lowercase

/-!
Rules: one effect, one field, one operator and one value each, with the
statement they come from.
-/

namespace PolicyGuard.Policy

inductive Effect where
  | forbid
  | permit
  deriving DecidableEq, Repr

inductive Operator where
  | equals
  | notEquals
  | greaterThan
  | greaterOrEqual
  | lessThan
  | lessOrEqual
  | contains
  | startsWith
  | endsWith
  deriving DecidableEq, Repr

structure Rule where
  effect : Effect
  action : String
  field : String
  operator : Operator
  value : Value
  source : String
  deriving DecidableEq, Repr

namespace Effect

def name : Effect → String
  | forbid => "forbid"
  | permit => "permit"

def ofName? : String → Option Effect
  | "forbid" => some forbid
  | "permit" => some permit
  | _ => none

end Effect

namespace Operator

/-- The operator as policy text writes it. -/
def token : Operator → String
  | equals => "=="
  | notEquals => "!="
  | greaterThan => ">"
  | greaterOrEqual => ">="
  | lessThan => "<"
  | lessOrEqual => "<="
  | contains => "contains"
  | startsWith => "startswith"
  | endsWith => "endswith"

/-- The operator that a token writes; words may have any case. -/
def ofToken? (token : String) : Option Operator :=
  match Text.lowerAscii token with
  | "==" => some equals
  | "!=" => some notEquals
  | ">" => some greaterThan
  | ">=" => some greaterOrEqual
  | "<" => some lessThan
  | "<=" => some lessOrEqual
  | "contains" => some contains
  | "startswith" => some startsWith
  | "endswith" => some endsWith
  | _ => none

/-- The name of the operator in rules that are written as JSON. -/
def name : Operator → String
  | equals => "equals"
  | notEquals => "not_equals"
  | greaterThan => "greater_than"
  | greaterOrEqual => "greater_or_equal"
  | lessThan => "less_than"
  | lessOrEqual => "less_or_equal"
  | contains => "contains"
  | startsWith => "starts_with"
  | endsWith => "ends_with"

def ofName? : String → Option Operator
  | "equals" => some equals
  | "not_equals" => some notEquals
  | "greater_than" => some greaterThan
  | "greater_or_equal" => some greaterOrEqual
  | "less_than" => some lessThan
  | "less_or_equal" => some lessOrEqual
  | "contains" => some contains
  | "starts_with" => some startsWith
  | "ends_with" => some endsWith
  | _ => none

/-- Whether the operator compares by order or equality. -/
def isOrdering : Operator → Bool
  | contains | startsWith | endsWith => false
  | _ => true

end Operator

namespace Rule

/-- The condition of a rule as policy text would write it. -/
def condition (r : Rule) : String :=
  match r.value with
  | .text s => r.field ++ " " ++ r.operator.token ++ " \"" ++ s ++ "\""
  | .number x => r.field ++ " " ++ r.operator.token ++ " " ++ x.plain

def display (r : Rule) : String :=
  r.effect.name ++ " when \x7b " ++ r.condition ++ " \x7d"

def json (r : Rule) : List (String × Json) :=
  [("effect", .string r.effect.name), ("action", .string r.action), ("field", .string r.field),
    ("operator", .string r.operator.name), ("value", r.value.json), ("source_text", .string r.source)]

def read? (d : Json.Document) : Option Rule := do
  match ← d.fields? ["effect", "action", "field", "operator", "value", "source_text"] with
  | [effect, action, field, operator, value, source] =>
    return {
      effect := ← Json.required? (fun d => d.choice?.bind Effect.ofName?) effect
      action := ← Json.required? Json.Document.string? action
      field := ← Json.required? Json.Document.string? field
      operator := ← Json.required? (fun d => d.choice?.bind Operator.ofName?) operator
      value := ← Json.required? Value.read? value
      source := ← Json.required? Json.Document.string? source
    }
  | _ => none

end Rule

/-- The rules of a JSON array. -/
def readRules? : Json.Document → Option (List Rule)
  | .array items => items.mapM Rule.read?
  | _ => none

end PolicyGuard.Policy
