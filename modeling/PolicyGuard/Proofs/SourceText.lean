import PolicyGuard.Policy.Decision
import PolicyGuard.Proofs.Grammar

/-!
The source of a rule stands for the rules of its statement.

* `stripComments_of_not_infix`: without two slashes in a row there are no comments;
* `read_source`: a source that is read by itself has the rules of its statement;
* `read_sources`: a policy is read as its sources are, one by one, and a policy id names one
  of them.
-/

namespace PolicyGuard.Policy

theorem stripFrom_of_not_infix {xs : List Char} (h : ¬ "//".toList <:+: xs) {zone : Zone}
    (hz : zone ≠ .comment) : stripFrom zone xs = xs := by
  induction xs generalizing zone with
  | nil => cases zone <;> rfl
  | cons c cs ih =>
    have ht : ¬ "//".toList <:+: cs := fun hi => h (hi.trans (List.suffix_cons c cs).isInfix)
    cases zone with
    | code =>
      have hs : c = '/' → cs.head? ≠ some '/' := by
        rintro rfl hd
        obtain ⟨tail, rfl⟩ := List.head?_eq_some_iff.mp hd
        exact h (List.prefix_append "//".toList tail).isInfix
      rw [stripFrom_code_cons hs, ih ht (by split <;> simp)]
    | quoted => rw [stripFrom, ih ht (by split <;> simp)]
    | comment => exact absurd rfl hz

/-- Text without two slashes in a row has no comments. -/
theorem stripComments_of_not_infix {xs : List Char} (h : ¬ "//".toList <:+: xs) :
    stripComments xs = xs :=
  stripFrom_of_not_infix h (by simp)

theorem Statement.source_of_mem_rules {s : Statement} {r : Rule} (h : r ∈ s.rules) :
    r.source = s.source := by
  obtain ⟨clause, -, hr⟩ := List.mem_filterMap.mp h
  obtain ⟨operator, -, rfl⟩ := Option.map_eq_some_iff.mp hr
  rfl

/-- A statement has the same rules wherever its source is found, unless it holds what may be
a comment. -/
theorem read_source {cs : List Char} {s : Statement} (hs : s ∈ Statement.all cs)
    (h : ¬ "//".toList <:+: s.source.toList) : read s.source = s.rules := by
  rw [read, stripComments_of_not_infix h, Statement.all_source (Statement.source_of_mem_all hs).1,
    List.flatMap_singleton]

/-- The rule behind a decision is one of those that decide. -/
theorem mem_of_rule {rules : List Rule} {s : Subject} {r : Rule}
    (h : (decide rules s).rule = some r) : r ∈ rules := by
  unfold decide at h
  split at h
  · cases h
  · split at h
    next hf =>
      cases h
      exact List.mem_of_find?_eq_some hf
    next =>
      split at h
      next hp =>
        cases h
        exact List.mem_of_find?_eq_some hp
      next => cases h

/-- **Sources.** A policy without two slashes in a row is read as its sources are, each by
itself: such a source has the rules of its statement, with itself as their source. The id that
a decision gives is such a source, and its rules are the matched one and those that stand in
the same statement. -/
theorem read_sources {text : String} (h : ¬ "//".toList <:+: text.toList) :
    read text = (Statement.all text.toList).flatMap (fun s => read s.source) ∧
      (∀ s ∈ Statement.all text.toList,
        read s.source = s.rules ∧ ∀ r ∈ read s.source, r.source = s.source) ∧
      ∀ subject id, (decide (read text) subject).policyId = some id →
        ∃ s ∈ Statement.all text.toList, id = s.source ∧
          ∃ r ∈ read id, (decide (read text) subject).rule = some r := by
  have hs : ∀ s ∈ Statement.all text.toList, read s.source = s.rules := by
    intro s hs
    have hi := (Statement.source_of_mem_all hs).2
    exact read_source hs fun hc => h (hc.trans hi)
  have hr : read text = (Statement.all text.toList).flatMap Statement.rules := by
    rw [read, stripComments_of_not_infix h]
  refine ⟨?_, fun s hm => ⟨hs s hm, fun r hr => ?_⟩, fun subject id hid => ?_⟩
  · rw [hr]
    exact List.flatMap_congr fun s hm => (hs s hm).symm
  · rw [hs s hm] at hr
    exact Statement.source_of_mem_rules hr
  · obtain ⟨r, hv, rfl⟩ := Option.map_eq_some_iff.mp hid
    have hm := mem_of_rule hv
    rw [hr] at hm
    obtain ⟨s, hsm, hrs⟩ := List.mem_flatMap.mp hm
    have he := Statement.source_of_mem_rules hrs
    refine ⟨s, hsm, he, r, ?_, hv⟩
    rw [he, hs s hsm]
    exact hrs

/-- Two statements in an odd spelling, each with the conditions of its rules. -/
def crowdedSources : List (String × List String) :=
  [("forbid(principal,ACTION == Action::\"http\" , re\u017Fource )when" ++
      "\x7ba.B_c CONTAINS \"/\"&a.n>=5\x7d ;", ["b_c contains \"/\"", "n >= 5"]),
    ("permit (principal, action, resource) when \x7b a.b == \"forbid (\" \x7d;",
      ["b == \"forbid (\""])]

/-- The two statements with rubbish around them. -/
def crowdedText : String :=
  "x\x7d;" ++ ";".intercalate (crowdedSources.map Prod.fst) ++ " permit ("

theorem read_crowdedText :
    ¬ "//".toList <:+: crowdedText.toList ∧
      (Statement.all crowdedText.toList).map (fun s => (s.source, s.rules.map Rule.condition)) =
        crowdedSources ∧
      ∀ s ∈ Statement.all crowdedText.toList, read s.source = s.rules := by
  have h : ¬ "//".toList <:+: crowdedText.toList := by
    decide +kernel
  obtain ⟨-, hs, -⟩ := read_sources h
  exact ⟨h, by decide +kernel, fun s hm => (hs s hm).1⟩

end PolicyGuard.Policy
