import PolicyGuard.Policy.Clause
import PolicyGuard.Policy.Comment
import PolicyGuard.Policy.Rule

/-!
Policy text. A statement reads

    forbid (principal, action == Action::"verb", resource) when { clauses };

with `permit` in place of `forbid`, with or without the comparison of the
action, with blanks between its parts and with words in any case. Its body ends
at the first closing brace. Every clause becomes a rule of its own; whatever is
no statement is skipped, so reading a policy never fails.
-/

namespace PolicyGuard.Policy

structure Statement where
  effect : Effect
  /-- The verb, or `*` for every action. -/
  action : String
  body : List Char
  source : String
  deriving DecidableEq, Repr

namespace Statement

/-- A word in any case. -/
def word? (word : String) (cs : List Char) : Option (List Char) :=
  (Clause.afterWord? word.toList cs).map Prod.snd

/-- A symbol after any blanks. -/
def mark? (symbol : String) (cs : List Char) : Option (List Char) :=
  Text.after? symbol.toList (Text.skipBlanks cs)

def effect? (cs : List Char) : Option (Effect × List Char) :=
  match word? "forbid" cs with
  | some rest => some (.forbid, rest)
  | none => (word? "permit" cs).map (Effect.permit, ·)

/-- The verb of a comparison of the action. -/
def verb? (cs : List Char) : Option (String × List Char) := do
  let rest ← mark? "==" cs
  let rest ← word? "action" (Text.skipBlanks rest)
  let rest ← Text.after? "::\"".toList rest
  let verb := rest.takeWhile Text.isWord
  let rest ← Text.after? ['"'] (rest.dropWhile Text.isWord)
  if verb.isEmpty then none else some (String.ofList verb, rest)

/-- A statement, and what follows it. -/
def head? (cs : List Char) : Option (Statement × List Char) := do
  let (effect, rest) ← effect? cs
  let rest ← mark? "(" rest
  let rest ← word? "principal" (Text.skipBlanks rest)
  let rest ← mark? "," rest
  let rest ← word? "action" (Text.skipBlanks rest)
  let (action, rest) := (verb? rest).getD ("*", rest)
  let rest ← mark? "," rest
  let rest ← word? "resource" (Text.skipBlanks rest)
  let rest ← mark? ")" rest
  let rest ← word? "when" (Text.skipBlanks rest)
  let rest ← mark? "\x7b" rest
  let body := rest.takeWhile (· ≠ '}')
  let rest ← Text.after? ['}'] (rest.dropWhile (· ≠ '}'))
  let rest ← mark? ";" rest
  let source := String.ofList (cs.take (cs.length - rest.length))
  return (⟨effect, action, body, source⟩, rest)

/-- A statement at the start of a word, and how many characters it takes. -/
def read? (before : Option Char) (cs : List Char) : Option (Statement × Nat) :=
  if before.any Text.isWord then none
  else (head? cs).map fun (statement, rest) => (statement, cs.length - rest.length)

/-- The statements of a text without comments. -/
def all (text : List Char) : List Statement :=
  Text.findAll read? text

/-- The rule of a clause, where its operator is one. -/
def rule? (s : Statement) (c : Clause) : Option Rule :=
  (Operator.ofToken? c.token).map fun operator =>
    ⟨s.effect, s.action, c.field, operator, c.value, s.source⟩

def rules (s : Statement) : List Rule :=
  (Clause.all s.body).filterMap s.rule?

end Statement

/-- The rules of policy text, in order. -/
def read (text : String) : List Rule :=
  (Statement.all (stripComments text.toList)).flatMap Statement.rules

end PolicyGuard.Policy
