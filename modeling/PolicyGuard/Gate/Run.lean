import PolicyGuard.Gate.Entities
import PolicyGuard.Policy.Subject

/-!
Runs of the gate. Every component is held against every forbid, and a threshold
keeps the violations that are severe enough; a run fails where one is left.
-/

namespace PolicyGuard.Gate

open Policy

structure Violation where
  rule : Rule
  componentName : String
  componentType : String
  /-- The component's value for the field of the rule. -/
  actualValue : String
  /-- The component's severity in lower case, empty where it has none. -/
  severity : String
  filePath : Option String
  lineNumber : Option Nat
  deriving DecidableEq, Repr

/-- The subject of a component, with the attributes of its entity. -/
def subject (entities : Option Entities) (c : Component) : Subject :=
  let entity := do
    let name ← (c.get? "name").bind Json.string?
    (← entities).get? name
  Subject.ofResource c entity

def textOr (s : Subject) (field default : String) : String :=
  ((s.get? field).map Value.asText).getD default

def filePath? (c : Component) : Option String :=
  ((c.get? "file_path").bind Json.string?).filter (· ≠ "")

def lineNumber? (c : Component) : Option Nat :=
  match c.get? "line_number" with
  | some (.number (.whole i)) => if 0 < i then some i.toNat else none
  | _ => none

/-- The violation of a rule by a component. -/
def violation (c : Component) (s : Subject) (r : Rule) : Violation where
  rule := r
  componentName := textOr s "name" "unknown"
  componentType := textOr s "component_type" "unknown"
  actualValue := textOr s r.field "N/A"
  severity := Text.lower (textOr s "severity" "")
  filePath := filePath? c
  lineNumber := lineNumber? c

def componentViolations (rules : List Rule) (entities : Option Entities) (c : Component) :
    List Violation :=
  let s := subject entities c
  (violations rules s).map (violation c s)

/-- All violations, by component and then by rule. -/
def evaluate (rules : List Rule) (components : List Component) (entities : Option Entities) :
    List Violation :=
  components.flatMap (componentViolations rules entities)

/-- The violations at or above a threshold. One without rank keeps all. -/
def filterBySeverity (vs : List Violation) (threshold : String) : List Violation :=
  if severityRank threshold = 0 then vs
  else vs.filter fun v => severityRank threshold ≤ severityRank v.severity

inductive Outcome where
  | noRules
  | noComponents
  | passed (rules components : Nat)
  | failed (violations : List Violation)
  deriving DecidableEq, Repr

def Outcome.exitCode : Outcome → Nat
  | failed _ => 1
  | _ => 0

def run (rules : List Rule) (components : List Component) (entities : Option Entities)
    (threshold : Option String) : Outcome :=
  if rules.isEmpty then .noRules
  else if components.isEmpty then .noComponents
  else
    let all := evaluate rules components entities
    let kept := match threshold with
      | some t => filterBySeverity all t
      | none => all
    if kept.isEmpty then .passed rules.length components.length else .failed kept

end PolicyGuard.Gate
