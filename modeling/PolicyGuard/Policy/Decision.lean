import PolicyGuard.Policy.Statement
import PolicyGuard.Table
import PolicyGuard.Text.Scan

/-!
Decisions of a policy about a subject.

* a subject is a table of attributes;
* `Rule.accepts` compares severities by rank, numbers by order, and all else as
  lower-case text; `Rule.appliesTo` does so with the attribute that a rule names;
* `decide` lets the first matching forbid deny, then the first matching permit
  allow, and else allows.
-/

namespace PolicyGuard.Policy

/-- Named attributes. -/
abbrev Subject := Table Value

/-- The rank of a severity label; unknown labels have none. -/
def severityRank (label : String) : Nat :=
  match Text.lowerAscii (Text.trim label) with
  | "critical" => 4
  | "high" => 3
  | "medium" => 2
  | "low" => 1
  | _ => 0

namespace Operator

/-- Whether an order between two things, if there is one, satisfies an operator. -/
def holds (op : Operator) (order : Option Ordering) : Bool :=
  match op with
  | equals => order = some .eq
  | notEquals => order ≠ some .eq
  | greaterThan => order = some .gt
  | greaterOrEqual => order = some .gt || order = some .eq
  | lessThan => order = some .lt
  | lessOrEqual => order = some .lt || order = some .eq
  | contains | startsWith | endsWith => false

/-- Whether two texts in lower case satisfy an operator. -/
def holdsOfText (op : Operator) (actual target : List Char) : Bool :=
  match op with
  | equals => actual = target
  | notEquals => actual ≠ target
  | contains => Text.occursIn target actual
  | startsWith => target.isPrefixOf actual
  | endsWith => target.isSuffixOf actual
  | greaterThan | greaterOrEqual | lessThan | lessOrEqual => false

end Operator

/-- Whether a value compares as a rule demands. A number in the rule asks for a
number in the subject. -/
def Rule.accepts (r : Rule) (actual : Value) : Bool :=
  if r.field = "severity" then
    r.operator.holds (some (compare (severityRank actual.asText) (severityRank r.value.asText)))
  else
    match r.value with
    | .number target =>
      match actual.number? with
      | some x => r.operator.holds (x.compare? target)
      | none => false
    | .text target =>
      r.operator.holdsOfText (Text.lower actual.asText).toList (Text.lower target).toList

/-- Whether a rule is about the subject. An absent attribute never matches. -/
def Rule.appliesTo (r : Rule) (s : Subject) : Bool :=
  (s.get? r.field).any r.accepts

inductive Decision where
  | allow
  | deny
  deriving DecidableEq, Repr

def Decision.name : Decision → String
  | allow => "allow"
  | deny => "deny"

/-- A decision with its reason and the rule behind it, if a rule is. -/
structure Verdict where
  decision : Decision
  reason : String
  rule : Option Rule
  deriving DecidableEq, Repr

namespace Verdict

def allow (reason : String) : Verdict :=
  ⟨.allow, reason, none⟩

def isAllowed (v : Verdict) : Bool :=
  v.decision = .allow

/-- The statement behind the decision stands for the policy. -/
def policyId (v : Verdict) : Option String :=
  v.rule.map Rule.source

def json (v : Verdict) : Json :=
  .object [("decision", .string v.decision.name), ("reason", .string v.reason),
    ("matched_rule", (v.rule.map fun r => .object r.json).getD .null)]

end Verdict

/-- The first rule with this effect that applies. -/
def firstMatch? (rules : List Rule) (effect : Effect) (s : Subject) : Option Rule :=
  rules.find? fun r => r.effect = effect && r.appliesTo s

def decide (rules : List Rule) (s : Subject) : Verdict :=
  if rules.isEmpty then .allow "No policy rules configured (default allow)"
  else
    match firstMatch? rules .forbid s with
    | some r => ⟨.deny, "Forbidden by policy: " ++ r.condition, some r⟩
    | none =>
      match firstMatch? rules .permit s with
      | some r => ⟨.allow, "Explicitly permitted by policy: " ++ r.condition, some r⟩
      | none => .allow "No matching policy rules (default allow)"

/-- Whether a rule forbids the subject. -/
def Rule.forbids (r : Rule) (s : Subject) : Bool :=
  r.effect = .forbid && r.appliesTo s

/-- Every forbid that applies, in order. -/
def violations (rules : List Rule) (s : Subject) : List Rule :=
  rules.filter (·.forbids s)

end PolicyGuard.Policy
