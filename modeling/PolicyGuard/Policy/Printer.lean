import PolicyGuard.Policy.Statement

/-!
Writing policy text. What `printStatement` writes is a statement as
`Policy.read` reads it, provided its parts are words and its conditions hold no
closing brace. A `Draft` is a statement to be written whose parts are so.
-/

namespace PolicyGuard.Policy

/-- What a statement says about the action. -/
def printAction : Option String → String
  | none => "action"
  | some verb => "action == Action::\"" ++ verb ++ "\""

/-- A statement on one verb, or on every action. -/
def printStatement (effect : Effect) (verb : Option String) (conditions : List String) : String :=
  effect.name ++ " (principal, " ++ printAction verb ++ ", resource) when \x7b " ++
    " && ".intercalate conditions ++ " \x7d;"

/-- The condition of a rule, about the resource. -/
def printCondition (r : Rule) : String :=
  "resource." ++ r.condition

/-- The statement of a single rule. -/
def printRule (r : Rule) : String :=
  printStatement r.effect (if r.action = "*" then none else some r.action) [printCondition r]

/-! ## Drafts -/

/-- A word of word characters. -/
structure Word where
  text : String
  ne_nil : text.toList ≠ []
  isWord : text.toList.all Text.isWord = true

/-- A condition whose value can stand in quotes in a body. -/
structure Draft.Condition where
  field : Word
  lower : Text.lowerAscii field.text = field.text
  operator : Operator
  value : String
  unquoted : '"' ∉ value.toList
  unclosed : '}' ∉ value.toList

structure Draft where
  effect : Effect
  /-- The verb, if the statement is not about every action. -/
  verb : Option Word
  conditions : List Draft.Condition
  ne_nil : conditions ≠ []

namespace Draft

def action (d : Draft) : String :=
  (d.verb.map Word.text).getD "*"

/-- The rule of a condition, from a statement with this text. -/
def rule (d : Draft) (source : String) (c : Condition) : Rule :=
  ⟨d.effect, d.action, c.field.text, c.operator, .text c.value, source⟩

def text (d : Draft) : String :=
  printStatement d.effect (d.verb.map Word.text)
    (d.conditions.map fun c => printCondition (d.rule "" c))

/-- What a draft says, one rule for each condition. -/
def rules (d : Draft) : List Rule :=
  d.conditions.map (d.rule d.text)

end Draft

end PolicyGuard.Policy
