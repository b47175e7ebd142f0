import PolicyGuard.Proofs.ExitCode

/-!
Thresholds of severity.

A threshold counts by its rank. A label without rank, like no threshold at all, has rank 0, which
every violation reaches, so that there is no special case: to filter twice is to filter by the
larger rank, and a larger rank leaves less.

* `filterBySeverity_eq`, `kept_eq`: a filter by rank;
* `filter_reaches`: two filters in a row;
* `violations_run`: what is left in a run;
* `filterBySeverity_chain`: thresholds of a list of violations, and of runs.
-/

namespace PolicyGuard.Gate

open Policy

/-! ## Filters -/

def Violation.reaches (rank : Nat) (v : Violation) : Bool :=
  rank ≤ severityRank v.severity

/-- The rank of a threshold. -/
def thresholdRank : Option String → Nat
  | some t => severityRank t
  | none => 0

theorem filter_reaches_zero (vs : List Violation) : vs.filter (·.reaches 0) = vs :=
  List.filter_eq_self.mpr fun v _ => decide_eq_true (Nat.zero_le (severityRank v.severity))

theorem filterBySeverity_eq (vs : List Violation) (t : String) :
    filterBySeverity vs t = vs.filter (·.reaches (severityRank t)) := by
  unfold filterBySeverity
  split
  next h => rw [h, filter_reaches_zero]
  next => rfl

theorem kept_eq (vs : List Violation) (threshold : Option String) :
    kept vs threshold = vs.filter (·.reaches (thresholdRank threshold)) := by
  cases threshold with
  | none => exact (filter_reaches_zero vs).symm
  | some t => exact filterBySeverity_eq vs t

theorem filter_reaches (vs : List Violation) (m n : Nat) :
    (vs.filter (·.reaches m)).filter (·.reaches n) = vs.filter (·.reaches (max m n)) := by
  rw [List.filter_filter]
  refine List.filter_congr fun v _ => ?_
  rw [Bool.eq_iff_iff]
  simp only [Violation.reaches, Bool.and_eq_true, decide_eq_true_eq]
  omega

theorem filterBySeverity_twice (vs : List Violation) (a b : String) :
    filterBySeverity (filterBySeverity vs a) b =
      vs.filter (·.reaches (max (severityRank a) (severityRank b))) := by
  rw [filterBySeverity_eq, filterBySeverity_eq, filter_reaches]

/-! ## Runs -/

/-- The violations that a run ends with. -/
def Outcome.violations : Outcome → List Violation
  | .failed vs => vs
  | _ => []

section

variable (rules : List Rule) (cs : List Component) (entities : Option Entities)

theorem violations_run (threshold : Option String) :
    (run rules cs entities threshold).violations = kept (evaluate rules cs entities) threshold := by
  have h := ended_run rules cs entities threshold
  have hnil : kept [] threshold = [] := by
    rw [kept_eq, List.filter_nil]
  generalize run rules cs entities threshold = outcome at h ⊢
  cases h with
  | noRules hr =>
    subst hr
    have he : evaluate [] cs entities = [] := by
      simp [evaluate, componentViolations, Policy.violations]
    rw [he, hnil]
    rfl
  | noComponents hr hc =>
    subst hc
    exact hnil.symm
  | passed hr hc hl => exact hl.symm
  | failed hr hc hl => rfl

variable {low high : Option String} (h : thresholdRank low ≤ thresholdRank high)

include h

/-- What a higher threshold leaves is what it leaves of what a lower one left. -/
theorem violations_run_of_le :
    (run rules cs entities high).violations = kept (run rules cs entities low).violations high := by
  rw [violations_run, violations_run, kept_eq, kept_eq, kept_eq, filter_reaches,
    Nat.max_eq_right h]

theorem exitCode_run_of_le (hlow : (run rules cs entities low).exitCode = 0) :
    (run rules cs entities high).exitCode = 0 := by
  rw [exitCode_run] at hlow ⊢
  have hl : kept (evaluate rules cs entities) low = [] := by
    by_contra hn
    rw [if_neg hn] at hlow
    cases hlow
  have hh : kept (evaluate rules cs entities) high = [] := by
    have hv := violations_run_of_le rules cs entities h
    rw [violations_run, violations_run, hl] at hv
    rw [hv, kept_eq, List.filter_nil]
  rw [if_pos hh]

end

/-- **Thresholds.** To filter by one threshold and then by another is to filter by one that ranks
as high as the higher of them; so a filter twice is the filter once, the order of filters does not
matter, and what is left stays in order. A run with a higher threshold ends with those violations
of a run with a lower one that reach it, and does not fail where that one passes. -/
theorem filterBySeverity_chain (vs : List Violation) (a b : String) :
    (∀ c, severityRank c = max (severityRank a) (severityRank b) →
      filterBySeverity (filterBySeverity vs a) b = filterBySeverity vs c) ∧
    filterBySeverity (filterBySeverity vs a) a = filterBySeverity vs a ∧
    filterBySeverity (filterBySeverity vs a) b = filterBySeverity (filterBySeverity vs b) a ∧
    (filterBySeverity vs a).Sublist vs ∧
    ∀ (rules : List Rule) (cs : List Component) (entities : Option Entities)
      (low high : Option String), thresholdRank low ≤ thresholdRank high →
        (run rules cs entities high).violations = kept (run rules cs entities low).violations high ∧
        ((run rules cs entities high).violations).Sublist (run rules cs entities low).violations ∧
        ((run rules cs entities low).exitCode = 0 → (run rules cs entities high).exitCode = 0) := by
  refine ⟨?larger, ?idempotent, ?commutative, ?order, ?runs⟩
  case larger =>
    intro c hc
    rw [filterBySeverity_twice, filterBySeverity_eq, hc]
  case idempotent =>
    rw [filterBySeverity_twice, Nat.max_self, filterBySeverity_eq]
  case commutative =>
    rw [filterBySeverity_twice, filterBySeverity_twice, Nat.max_comm]
  case order =>
    rw [filterBySeverity_eq]
    exact List.filter_sublist
  case runs =>
    intro rules cs entities low high h
    have hv := violations_run_of_le rules cs entities h
    refine ⟨hv, ?_, exitCode_run_of_le rules cs entities h⟩
    rw [hv, kept_eq]
    exact List.filter_sublist

/-! Components of four severities, in spellings of their own, under a forbid on all of them. -/

def ratedComponents : List Component :=
  [[("name", .string "a"), ("severity", .string " High ")],
    [("name", .string "b"), ("severity", .string "low")],
    [("name", .string "c"), ("severity", .string "unheard of")],
    [("name", .string "d"), ("severity", .string "CRITICAL")]]

def forbidNamed : List Rule :=
  [⟨.forbid, "*", "name", .notEquals, .text "", ""⟩]

theorem filterBySeverity_ratedComponents :
    severityRank "critical" = max (severityRank "Medium") (severityRank "critical") ∧
      filterBySeverity
        (filterBySeverity (evaluate forbidNamed ratedComponents none) "Medium") "critical" =
        filterBySeverity (evaluate forbidNamed ratedComponents none) "critical" ∧
      thresholdRank (some "bogus") ≤ thresholdRank (some "Medium") ∧
      ((run forbidNamed ratedComponents none (some "Medium")).violations).Sublist
        (run forbidNamed ratedComponents none (some "bogus")).violations ∧
      thresholdRank none ≤ thresholdRank (some "high") ∧
      (run forbidNamed [[("severity", .string "high")]] none none).exitCode = 0 ∧
      (run forbidNamed [[("severity", .string "high")]] none (some "high")).exitCode = 0 := by
  obtain ⟨hlarger, -, -, -, hruns⟩ :=
    filterBySeverity_chain (evaluate forbidNamed ratedComponents none) "Medium" "critical"
  have hrank : severityRank "critical" = max (severityRank "Medium") (severityRank "critical") := by
    decide +kernel
  have hbogus : thresholdRank (some "bogus") ≤ thresholdRank (some "Medium") := by
    decide +kernel
  have hnone : thresholdRank none ≤ thresholdRank (some "high") := Nat.zero_le _
  have hpassed : (run forbidNamed [[("severity", .string "high")]] none none).exitCode = 0 := by
    decide +kernel
  exact ⟨hrank, hlarger "critical" hrank, hbogus, (hruns _ _ _ _ _ hbogus).2.1, hnone, hpassed,
    (hruns _ _ _ _ _ hnone).2.2 hpassed⟩

end PolicyGuard.Gate
