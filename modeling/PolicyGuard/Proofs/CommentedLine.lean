import PolicyGuard.Policy.Statement
import PolicyGuard.Proofs.Comment

/-!
Lines that are commented out.

Outside quotes such a line says nothing, whatever stands on it. Quotes go on over the ends of
lines, so after an open one the two slashes are text, and so is what follows them up to the
next quote.

* `stripComments_commented`, `stripComments_inQuotes`: what is left of such a line;
* `read_commentedLine`: the rules of a text with such a line.
-/

namespace PolicyGuard.Policy

section

variable (a x b : String)

theorem toList_commented :
    (a ++ "\n//" ++ x ++ "\n" ++ b).toList =
      a.toList ++ '\n' :: '/' :: '/' :: (x.toList ++ '\n' :: b.toList) := by
  simp

theorem toList_blank :
    (a ++ "\n\n" ++ b).toList = a.toList ++ '\n' :: '\n' :: b.toList := by
  simp

end

theorem stripFrom_comment {xs : List Char} (h : '\n' ∉ xs) (ys : List Char) :
    stripFrom .comment (xs ++ '\n' :: ys) = '\n' :: stripFrom .code ys := by
  induction xs with
  | nil => rfl
  | cons c cs ih =>
    obtain ⟨hc, hcs⟩ : c ≠ '\n' ∧ '\n' ∉ cs := by
      simpa [eq_comm] using h
    rw [List.cons_append, stripFrom, if_neg hc, ih hcs]

section

variable {a x b : String}

/-- Outside quotes an empty line is left. -/
theorem stripComments_commented (ha : QuotesClosed a.toList) (hx : '\n' ∉ x.toList) :
    stripComments (a ++ "\n//" ++ x ++ "\n" ++ b).toList =
      stripComments (a ++ "\n\n" ++ b).toList := by
  have hb : stripComments ('\n' :: b.toList) = '\n' :: stripComments b.toList := rfl
  rw [toList_commented, toList_blank, stripComments_newline ha, stripComments_newline ha, hb]
  show stripComments a.toList ++ '\n' :: stripFrom .comment (x.toList ++ '\n' :: b.toList) = _
  rw [stripFrom_comment hx]
  rfl

/-- Inside quotes the slashes and what follows them stay. -/
theorem stripComments_inQuotes (ha : ¬ QuotesClosed a.toList) :
    stripComments (a ++ "\n//" ++ x ++ "\n" ++ b).toList =
      stripComments a.toList ++ "\n//".toList ++ stripFrom .quoted (x ++ "\n" ++ b).toList := by
  have hz : zoneAfter .code a.toList = .quoted := Decidable.not_not.mp ha
  have hr : (x ++ "\n" ++ b).toList = x.toList ++ '\n' :: b.toList := by
    simp
  rw [toList_commented, stripComments, stripFrom_append .code a.toList (by simp), hz, hr]
  simp [stripComments, stripFrom]

/-- **Commented lines.** A line that starts with two slashes changes nothing about the rules
of the text before and after it, unless the text before ends inside quotes. Then the line
stays, and is read up to its first quote as it stands. -/
theorem read_commentedLine (hx : '\n' ∉ x.toList) :
    (QuotesClosed a.toList →
      read (a ++ "\n//" ++ x ++ "\n" ++ b) = read (a ++ "\n\n" ++ b)) ∧
    (¬ QuotesClosed a.toList →
      stripComments (a ++ "\n//" ++ x ++ "\n" ++ b).toList =
        stripComments a.toList ++ "\n//".toList ++
          stripFrom .quoted (x ++ "\n" ++ b).toList) := by
  constructor
  · intro ha
    rw [read, read, stripComments_commented ha hx]
  · exact stripComments_inQuotes

end

/-- A statement that is commented out. -/
def disabled : String :=
  "forbid (principal, action, resource) when \x7b resource.risk > 5 \x7d;"

theorem read_disabled :
    '\n' ∉ disabled.toList ∧
      read ("permit // \"" ++ "\n//" ++ disabled ++ "\n" ++ "") =
        read ("permit // \"" ++ "\n\n" ++ "") ∧
      stripComments ("\"" ++ "\n//" ++ disabled ++ "\n" ++ "").toList =
        stripComments "\"".toList ++ "\n//".toList ++
          stripFrom .quoted (disabled ++ "\n" ++ "").toList := by
  have hx : '\n' ∉ disabled.toList := by
    decide
  have ha : QuotesClosed "permit // \"".toList := by
    decide
  have hq : ¬ QuotesClosed "\"".toList := by
    decide
  exact ⟨hx, (read_commentedLine hx).1 ha, (read_commentedLine hx).2 hq⟩

/-- After an open quote a statement that is commented out takes effect. -/
theorem read_disabled_inQuotes :
    ¬ ∀ a x b : String, '\n' ∉ x.toList →
      read (a ++ "\n//" ++ x ++ "\n" ++ b) = read (a ++ "\n\n" ++ b) := by
  intro h
  have hx : '\n' ∉ disabled.toList := by
    decide
  exact absurd (h "\"" disabled "" hx) (by decide +kernel)

end PolicyGuard.Policy
