import PolicyGuard.Pattern.Basic

/-!
Texts as patterns.

What is written into a pattern to stand for itself is escaped: a backslash is put before every
character that might mean something else.
-/

namespace PolicyGuard.Pattern

/-- The characters that do not stand for themselves everywhere in a pattern. -/
def metas : List Char :=
  ['\\', '.', '+', '*', '?', '(', ')', '|', '[', ']', '{', '}', '^', '$', '#', '&', '-', '~']

def escapeChar (c : Char) : List Char :=
  if c ∈ metas then ['\\', c] else [c]

/-- A text as a pattern that stands for it. -/
def escape (text : String) : String :=
  String.ofList (text.toList.flatMap escapeChar)

end PolicyGuard.Pattern
