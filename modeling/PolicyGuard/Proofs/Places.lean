import Mathlib.Data.List.Flatten
import Mathlib.Data.List.Forall2
import PolicyGuard.Proofs.Precedence

/-!
Where violations come from.

A place is a component and a rule, by their positions. The gate goes through the places in order
and reports those whose rule is a forbid that applies to the component.

* `mem_located`, `pairwise_located`: the places that are reported, and their order;
* `exists_of_appliesTo`: a rule that applies has a value to report;
* `pairs_sublist`: the places of two runs;
* `evaluate_places`: the violations of any components under any rules.
-/

namespace PolicyGuard.Gate

open Policy

/-- A component and a rule, by their positions. -/
abbrev Place := Nat × Nat

/-- By component, and then by rule. -/
def Place.Before (p q : Place) : Prop :=
  p.1 < q.1 ∨ p.1 = q.1 ∧ p.2 < q.2

instance (p q : Place) : Decidable (p.Before q) :=
  inferInstanceAs (Decidable (_ ∨ _))

/-- At a place stand this component and this rule, and the rule is a forbid that applies to the
component. -/
structure Matches (rules : List Rule) (cs : List Component) (entities : Option Entities)
    (p : Place) (c : Component) (r : Rule) : Prop where
  component : cs[p.1]? = some c
  rule : rules[p.2]? = some r
  effect : r.effect = .forbid
  applies : r.appliesTo (subject entities c) = true

/-- What is reported at a place: the violation of the rule by the component, with the value that
the component has for the field of the rule. -/
def ReportedAt (rules : List Rule) (cs : List Component) (entities : Option Entities)
    (p : Place) (v : Violation) : Prop :=
  ∃ c r a, Matches rules cs entities p c r ∧ v = violation c (subject entities c) r ∧
    (subject entities c).get? v.rule.field = some a ∧ v.actualValue = a.asText

/-! ## Places of one component -/

theorem pairwise_zipIdx {α : Type} (l : List α) : l.zipIdx.Pairwise fun q q' => q.2 < q'.2 := by
  rw [← List.pairwise_map (R := (· < ·)), List.zipIdx_map_snd]
  exact List.pairwise_lt_range' 1

/-- The violations of the component at a position, with their places. -/
def placed (rules : List Rule) (entities : Option Entities) (c : Component) (i : Nat) :
    List (Place × Violation) :=
  (rules.zipIdx.filter fun q => q.1.forbids (subject entities c)).map fun q =>
    ((i, q.2), violation c (subject entities c) q.1)

section

variable {rules : List Rule} {entities : Option Entities} {c : Component} {i : Nat}

theorem map_snd_placed : (placed rules entities c i).map Prod.snd =
    componentViolations rules entities c := by
  have hr : (rules.zipIdx.filter fun q => q.1.forbids (subject entities c)).map Prod.fst =
      violations rules (subject entities c) := by
    rw [violations, ← List.zipIdx_map_fst 0 rules, List.filter_map, List.zipIdx_map_fst]
    rfl
  rw [componentViolations, ← hr, placed, List.map_map, List.map_map]
  rfl

theorem mem_placed {p : Place} {v : Violation} :
    (p, v) ∈ placed rules entities c i ↔
      p.1 = i ∧ ∃ r, rules[p.2]? = some r ∧ r.forbids (subject entities c) = true ∧
        v = violation c (subject entities c) r := by
  simp only [placed, List.mem_map, List.mem_filter, List.mem_zipIdx_iff_getElem?]
  constructor
  · rintro ⟨⟨r, j⟩, ⟨hr, hf⟩, h⟩
    cases h
    exact ⟨rfl, r, hr, hf, rfl⟩
  · rintro ⟨rfl, r, hr, hf, rfl⟩
    exact ⟨(r, p.2), ⟨hr, hf⟩, rfl⟩

theorem pairwise_placed : (placed rules entities c i).Pairwise fun x y => x.1.Before y.1 := by
  rw [placed, List.pairwise_map]
  exact ((pairwise_zipIdx rules).filter _).imp fun h => .inr ⟨rfl, h⟩

end

/-! ## Places of all components -/

/-- All violations, with their places. -/
def located (rules : List Rule) (cs : List Component) (entities : Option Entities) :
    List (Place × Violation) :=
  cs.zipIdx.flatMap fun q => placed rules entities q.1 q.2

section

variable (rules : List Rule) (cs : List Component) (entities : Option Entities)

theorem map_snd_located : (located rules cs entities).map Prod.snd = evaluate rules cs entities := by
  have hc : evaluate rules cs entities =
      (cs.zipIdx.map Prod.fst).flatMap (componentViolations rules entities) := by
    rw [List.zipIdx_map_fst]
    rfl
  rw [hc, located, List.map_flatMap, List.flatMap_map]
  exact List.flatMap_congr fun q _ => map_snd_placed

variable {rules cs entities}

theorem mem_located {p : Place} {v : Violation} :
    (p, v) ∈ located rules cs entities ↔
      ∃ c r, Matches rules cs entities p c r ∧ v = violation c (subject entities c) r := by
  simp only [located, List.mem_flatMap, mem_placed, List.mem_zipIdx_iff_getElem?, Rule.forbids,
    Bool.and_eq_true, decide_eq_true_eq]
  constructor
  · rintro ⟨⟨c, i⟩, hc, rfl, r, hr, ⟨he, ha⟩, hv⟩
    exact ⟨c, r, ⟨hc, hr, he, ha⟩, hv⟩
  · rintro ⟨c, r, h, hv⟩
    exact ⟨(c, p.1), h.component, rfl, r, h.rule, ⟨h.effect, h.applies⟩, hv⟩

theorem pairwise_located :
    (located rules cs entities).Pairwise fun x y => x.1.Before y.1 := by
  rw [located, List.pairwise_flatMap]
  refine ⟨fun q _ => pairwise_placed, (pairwise_zipIdx cs).imp ?_⟩
  -- places of different components are in order whatever their rules are
  rintro ⟨c, i⟩ ⟨d, j⟩ hij ⟨p, v⟩ hv ⟨q, w⟩ hw
  obtain ⟨rfl, -⟩ := mem_placed.mp hv
  obtain ⟨rfl, -⟩ := mem_placed.mp hw
  exact .inl hij

/-- A rule that applies to a subject finds a value there. -/
theorem exists_of_appliesTo {r : Rule} {s : Subject} (h : r.appliesTo s = true) :
    ∃ a, s.get? r.field = some a ∧ r.accepts a = true :=
  (Option.any_eq_true _ _).mp h

theorem actualValue_violation {r : Rule} {s : Subject} {a : Value} (h : s.get? r.field = some a)
    (c : Component) : (violation c s r).actualValue = a.asText := by
  show textOr s r.field "N/A" = a.asText
  rw [textOr, h]
  rfl

theorem reportedAt_of_mem {x : Place × Violation} (h : x ∈ located rules cs entities) :
    ReportedAt rules cs entities x.1 x.2 := by
  obtain ⟨c, r, hm, hv⟩ := mem_located.mp h
  obtain ⟨a, ha, -⟩ := exists_of_appliesTo hm.applies
  refine ⟨c, r, a, hm, hv, ?_, ?_⟩
  · rw [hv]
    exact ha
  · rw [hv]
    exact actualValue_violation ha c

end

/-! ## Two runs -/

/-- Violations by their places and their rules. -/
def pairs (xs : List (Place × Violation)) : List (Place × Rule) :=
  xs.map fun x => (x.1, x.2.rule)

theorem pairs_filter_placed (rules : List Rule) (entities : Option Entities) (c : Component)
    (i : Nat) (p : Violation → Bool) :
    pairs ((placed rules entities c i).filter fun x => p x.2) =
      (rules.zipIdx.filter fun q =>
        p (violation c (subject entities c) q.1) && q.1.forbids (subject entities c)).map fun q =>
          ((i, q.2), q.1) := by
  rw [pairs, placed, List.filter_map, List.map_map, List.filter_filter]
  rfl

/-- Where entities change what a rule says about a component only from no to yes, violations are
added between the others. -/
theorem pairs_sublist {entities others : Option Entities} {p q : Violation → Bool}
    (h : ∀ (c : Component) (r : Rule), r.forbids (subject entities c) = true →
      p (violation c (subject entities c) r) = true →
        r.forbids (subject others c) = true ∧ q (violation c (subject others c) r) = true)
    (rules : List Rule) (cs : List Component) :
    (pairs ((located rules cs entities).filter fun x => p x.2)).Sublist
      (pairs ((located rules cs others).filter fun x => q x.2)) := by
  unfold pairs located
  rw [List.filter_flatMap, List.filter_flatMap, List.map_flatMap, List.map_flatMap]
  refine List.Sublist.flatMap_right _ fun x _ => ?_
  have hone := pairs_filter_placed rules entities x.1 x.2 p
  have hother := pairs_filter_placed rules others x.1 x.2 q
  unfold pairs at hone hother
  rw [hone, hother]
  refine (List.monotone_filter_right _ fun y hy => ?_).map _
  obtain ⟨hp, hf⟩ := (Bool.and_eq_true _ _).mp hy
  obtain ⟨hf', hq⟩ := h x.1 y.1 hf hp
  exact (Bool.and_eq_true _ _).mpr ⟨hq, hf'⟩

/-! ## All violations -/

theorem evaluate_append (rules : List Rule) (cs more : List Component)
    (entities : Option Entities) :
    evaluate rules (cs ++ more) entities =
      evaluate rules cs entities ++ evaluate rules more entities :=
  List.flatMap_append

/-- Only forbids are reported. -/
theorem evaluate_ofEffect {rules others : List Rule}
    (h : ofEffect .forbid others = ofEffect .forbid rules) (cs : List Component)
    (entities : Option Entities) :
    evaluate others cs entities = evaluate rules cs entities := by
  refine List.flatMap_congr fun c _ => ?_
  rw [componentViolations, componentViolations, violations_ofEffect h]

/-- **Places of violations.** The violations are those of the places where a forbid applies to a
component, one for each of these places, by component and then by rule, and each shows the value
that the component has for the field. More components add their violations at the end, and
permits do not matter, wherever they stand. -/
theorem evaluate_places (rules : List Rule) (cs : List Component) (entities : Option Entities) :
    (∃ places : List Place, places.Pairwise Place.Before ∧
      (∀ p, p ∈ places ↔ ∃ c r, Matches rules cs entities p c r) ∧
      List.Forall₂ (ReportedAt rules cs entities) places (evaluate rules cs entities)) ∧
    (∀ more, evaluate rules (cs ++ more) entities =
      evaluate rules cs entities ++ evaluate rules more entities) ∧
    ∀ others, ofEffect .forbid others = ofEffect .forbid rules →
      evaluate others cs entities = evaluate rules cs entities := by
  refine ⟨⟨(located rules cs entities).map Prod.fst, ?order, ?places, ?reports⟩,
    fun more => evaluate_append rules cs more entities,
    fun others h => evaluate_ofEffect h cs entities⟩
  case order =>
    exact List.pairwise_map.mpr pairwise_located
  case places =>
    intro p
    rw [List.mem_map]
    constructor
    · rintro ⟨⟨p, v⟩, hx, rfl⟩
      obtain ⟨c, r, hm, -⟩ := mem_located.mp hx
      exact ⟨c, r, hm⟩
    · rintro ⟨c, r, hm⟩
      exact ⟨(p, _), mem_located.mpr ⟨c, r, hm, rfl⟩, rfl⟩
  case reports =>
    rw [← map_snd_located, List.forall₂_map_left_iff, List.forall₂_map_right_iff,
      List.forall₂_same]
    exact fun x hx => reportedAt_of_mem hx

/-! A policy that says one thing twice, with a permit between, and components of which one occurs
twice. -/

def repeatedPolicy : List Rule :=
  [ruleOf .forbid "name" .contains "OpenAI", ruleOf .permit "name" .endsWith ".com",
    ruleOf .forbid "name" .contains "OpenAI"]

def forbidsOnly : List Rule :=
  [ruleOf .forbid "name" .contains "OpenAI", ruleOf .forbid "name" .contains "OpenAI"]

def repeatedComponents : List Component :=
  [[("name", .string "api.openai.com")], [("name", .string "files.example.com")],
    [("name", .string "api.openai.com")]]

theorem evaluate_repeatedPolicy :
    ofEffect .forbid forbidsOnly = ofEffect .forbid repeatedPolicy ∧
      evaluate forbidsOnly repeatedComponents none =
        evaluate repeatedPolicy repeatedComponents none ∧
      ∃ places : List Place, places.Pairwise Place.Before ∧ places.length = 4 ∧
        (2, 2) ∈ places ∧ (2, 1) ∉ places ∧
        List.Forall₂ (ReportedAt repeatedPolicy repeatedComponents none) places
          (evaluate repeatedPolicy repeatedComponents none) := by
  obtain ⟨⟨places, horder, hmem, hreports⟩, -, hpermits⟩ :=
    evaluate_places repeatedPolicy repeatedComponents none
  have hf : ofEffect .forbid forbidsOnly = ofEffect .forbid repeatedPolicy := by
    decide +kernel
  have hlength : (evaluate repeatedPolicy repeatedComponents none).length = 4 := by
    decide +kernel
  refine ⟨hf, hpermits forbidsOnly hf, places, horder, hreports.length_eq.trans hlength, ?_, ?_,
    hreports⟩
  · exact (hmem (2, 2)).mpr
      ⟨_, _, ⟨rfl, rfl, by decide +kernel, by decide +kernel⟩⟩
  · intro h
    obtain ⟨c, r, hm⟩ := (hmem (2, 1)).mp h
    -- the rule at this place is the permit
    obtain rfl := Option.some.inj hm.rule
    exact absurd hm.effect (by decide)

end PolicyGuard.Gate
