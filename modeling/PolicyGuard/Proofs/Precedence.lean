import PolicyGuard.Gate.Run

/-!
Forbids come before permits, wherever they stand.

A decision looks for the first forbid that applies and then for the first permit; the
gate collects every forbid that applies. Both look at the rules of one effect only, so
they agree, and how the forbids and the permits of a policy are mixed does not matter.

* `firstMatch?_forbid`: the forbid that a decision finds is the first violation;
* `decide_ofEffect`, `violations_ofEffect`: only the order within each effect counts;
* `run_failed_iff`: the gate fails where a decision denies;
* `decide_agrees`: all of this for any policy.
-/

namespace PolicyGuard.Policy

/-- The rules with one effect, in order. -/
def ofEffect (effect : Effect) (rules : List Rule) : List Rule :=
  rules.filter (·.effect = effect)

/-- A rule has a property, and none before it has. -/
def IsFirst (p : Rule → Prop) (rules : List Rule) (r : Rule) : Prop :=
  p r ∧ ∃ before after, rules = before ++ r :: after ∧ ∀ q ∈ before, ¬ p q

/-! ## Decisions and violations -/

theorem firstMatch?_forbid (rules : List Rule) (s : Subject) :
    firstMatch? rules .forbid s = (violations rules s).head? := by
  rw [violations, List.head?_filter]
  rfl

theorem isFirst_of_firstMatch? {rules : List Rule} {effect : Effect} {s : Subject} {r : Rule}
    (h : firstMatch? rules effect s = some r) :
    IsFirst (fun r => r.effect = effect ∧ r.appliesTo s = true) rules r := by
  obtain ⟨hr, before, after, he, hb⟩ := List.find?_eq_some_iff_append.mp h
  refine ⟨by simpa using hr, before, after, he, ?_⟩
  intro q hq
  have hn := hb q hq
  simp only [Bool.not_eq_true', Bool.and_eq_false_iff, decide_eq_false_iff_not] at hn
  rintro ⟨hqe, hqs⟩
  simp [hqe, hqs] at hn

section Cases

variable {rules : List Rule} {s : Subject}

theorem decide_of_violation {r : Rule} {rest : List Rule} (h : violations rules s = r :: rest) :
    decide rules s = ⟨.deny, "Forbidden by policy: " ++ r.condition, some r⟩ := by
  have hf : firstMatch? rules .forbid s = some r := by
    rw [firstMatch?_forbid, h, List.head?_cons]
  have hn : rules.isEmpty = false := by
    cases rules with
    | nil => exact absurd h (by simp [violations])
    | cons _ _ => rfl
  simp [decide, hn, hf]

theorem isAllowed_of_no_violation (h : violations rules s = []) :
    (decide rules s).decision = .allow := by
  have hf : firstMatch? rules .forbid s = none := by
    rw [firstMatch?_forbid, h, List.head?_nil]
  unfold decide
  rw [hf]
  cases rules.isEmpty with
  | true => rfl
  | false => cases firstMatch? rules .permit s <;> rfl

theorem decide_deny_iff : (decide rules s).decision = .deny ↔ violations rules s ≠ [] := by
  cases h : violations rules s with
  | nil => simp [isAllowed_of_no_violation h]
  | cons r rest => simp [decide_of_violation h]

/-- The rule behind an allowing decision is the first permit that applies. -/
theorem isFirst_of_permitted {r : Rule} (ha : (decide rules s).decision = .allow)
    (hr : (decide rules s).rule = some r) :
    IsFirst (fun r => r.effect = .permit ∧ r.appliesTo s = true) rules r := by
  apply isFirst_of_firstMatch?
  unfold decide at ha hr
  cases he : rules.isEmpty with
  | true => simp [he, Verdict.allow] at hr
  | false =>
    cases hf : firstMatch? rules .forbid s with
    | some q => simp [he, hf] at ha
    | none =>
      cases hp : firstMatch? rules .permit s with
      | some q => simpa [he, hf, hp] using hr
      | none => simp [he, hf, hp, Verdict.allow] at hr

end Cases

/-! ## Mixing forbids and permits -/

theorem firstMatch?_ofEffect (rules : List Rule) (effect : Effect) (s : Subject) :
    firstMatch? rules effect s = (ofEffect effect rules).find? (·.appliesTo s) := by
  rw [ofEffect, List.find?_filter]
  unfold firstMatch?
  congr 1
  funext r
  simp

theorem violations_eq (rules : List Rule) (s : Subject) :
    violations rules s = (ofEffect .forbid rules).filter (·.appliesTo s) := by
  rw [ofEffect, List.filter_filter]
  exact List.filter_congr fun r _ => Bool.and_comm _ _

/-- There is no third effect. -/
theorem isEmpty_ofEffect (rules : List Rule) :
    rules.isEmpty = ((ofEffect .forbid rules).isEmpty && (ofEffect .permit rules).isEmpty) := by
  cases rules with
  | nil => rfl
  | cons r rest => cases h : r.effect <;> simp [ofEffect, h]

section Mixing

variable {rules others : List Rule} (hf : ofEffect .forbid rules = ofEffect .forbid others)

include hf

theorem violations_ofEffect (s : Subject) : violations rules s = violations others s := by
  rw [violations_eq, violations_eq, hf]

theorem decide_ofEffect (hp : ofEffect .permit rules = ofEffect .permit others) (s : Subject) :
    decide rules s = decide others s := by
  unfold decide
  rw [isEmpty_ofEffect, firstMatch?_ofEffect rules, firstMatch?_ofEffect rules, hf, hp,
    ← firstMatch?_ofEffect, ← firstMatch?_ofEffect, ← isEmpty_ofEffect]

end Mixing

end PolicyGuard.Policy

namespace PolicyGuard.Gate

open Policy

/-! ## The gate -/

theorem evaluate_eq_nil_iff (rules : List Rule) (components : List Component)
    (entities : Option Entities) :
    evaluate rules components entities = [] ↔
      ∀ c ∈ components, violations rules (subject entities c) = [] := by
  simp [evaluate, componentViolations]

/-- A gate without rules, or without components, has nothing to fail for. -/
theorem run_failed_iff (rules : List Rule) (components : List Component)
    (entities : Option Entities) :
    (∃ vs, run rules components entities none = .failed vs) ↔
      evaluate rules components entities ≠ [] := by
  cases rules with
  | nil =>
    have he : evaluate [] components entities = [] := by
      simp [evaluate_eq_nil_iff, violations]
    simp [run, he]
  | cons r rest =>
    cases components with
    | nil => simp [run, evaluate]
    | cons c others =>
      cases he : evaluate (r :: rest) (c :: others) entities <;> simp [run, he]

/-- **Precedence.** A decision denies exactly if there is a violation, and then cites the
first one; a permit that it cites is the first that applies. Policies with the same forbids in
order and the same permits in order decide alike, with the same reason, and have the same
violations. A gate without a threshold fails exactly if the decision about some component is
to deny. -/
theorem decide_agrees (rules : List Rule) (s : Subject) :
    ((decide rules s).decision = .deny ↔ violations rules s ≠ []) ∧
      ((decide rules s).decision = .deny →
        ∃ r rest, violations rules s = r :: rest ∧ (decide rules s).rule = some r) ∧
      (∀ r, (decide rules s).decision = .allow → (decide rules s).rule = some r →
        IsFirst (fun r => r.effect = .permit ∧ r.appliesTo s = true) rules r) ∧
      (∀ others, ofEffect .forbid rules = ofEffect .forbid others →
        ofEffect .permit rules = ofEffect .permit others →
        decide rules s = decide others s ∧ violations rules s = violations others s) ∧
      ∀ (components : List Component) (entities : Option Entities),
        (∃ vs, run rules components entities none = .failed vs) ↔
          ∃ c ∈ components, (decide rules (subject entities c)).decision = .deny := by
  refine ⟨decide_deny_iff, ?_, fun r => isFirst_of_permitted, ?_, ?_⟩
  · intro hd
    obtain ⟨r, rest, hv⟩ := List.exists_cons_of_ne_nil (decide_deny_iff.mp hd)
    exact ⟨r, rest, hv, by rw [decide_of_violation hv]⟩
  · intro others hf hp
    exact ⟨decide_ofEffect hf hp s, violations_ofEffect hf s⟩
  · intro components entities
    rw [run_failed_iff, Ne, evaluate_eq_nil_iff, Classical.not_forall]
    constructor
    · rintro ⟨c, hc⟩
      obtain ⟨hm, hv⟩ := Classical.not_imp.mp hc
      exact ⟨c, hm, decide_deny_iff.mpr hv⟩
    · rintro ⟨c, hm, hd⟩
      exact ⟨c, fun hv => decide_deny_iff.mp hd (hv hm)⟩

/-! A policy whose permit stands between two forbids, and the same with the permit at its end. -/

def ruleOf (effect : Effect) (field : String) (operator : Operator) (value : String) : Rule :=
  ⟨effect, "*", field, operator, .text value, ""⟩

def mixedPolicy : List Rule :=
  [ruleOf .forbid "path" .startsWith "/v2", ruleOf .permit "name" .endsWith "openai.com",
    ruleOf .forbid "name" .contains "OpenAI"]

def sortedPolicy : List Rule :=
  [ruleOf .forbid "path" .startsWith "/v2", ruleOf .forbid "name" .contains "OpenAI",
    ruleOf .permit "name" .endsWith "openai.com"]

def someComponents : List Component :=
  [[("name", .string "files.example.com")], [("name", .string "api.openai.com")]]

theorem decide_mixedPolicy :
    ofEffect .forbid mixedPolicy = ofEffect .forbid sortedPolicy ∧
      ofEffect .permit mixedPolicy = ofEffect .permit sortedPolicy ∧
      decide mixedPolicy [("name", .text "api.openai.com")] =
        decide sortedPolicy [("name", .text "api.openai.com")] ∧
      (∃ r rest, violations mixedPolicy [("name", .text "api.openai.com")] = r :: rest ∧
        (decide mixedPolicy [("name", .text "api.openai.com")]).rule = some r) ∧
      IsFirst (fun r => r.effect = .permit ∧ r.appliesTo [("name", .text "openai.com")] = true)
        [ruleOf .permit "name" .endsWith "openai.com"]
        (ruleOf .permit "name" .endsWith "openai.com") ∧
      ∃ vs, run mixedPolicy someComponents none none = .failed vs := by
  have hf : ofEffect .forbid mixedPolicy = ofEffect .forbid sortedPolicy := by
    decide +kernel
  have hp : ofEffect .permit mixedPolicy = ofEffect .permit sortedPolicy := by
    decide +kernel
  obtain ⟨-, hv, -, hm, hg⟩ := decide_agrees mixedPolicy [("name", .text "api.openai.com")]
  obtain ⟨-, -, hr, -, -⟩ := decide_agrees [ruleOf .permit "name" .endsWith "openai.com"]
    [("name", .text "openai.com")]
  refine ⟨hf, hp, (hm sortedPolicy hf hp).1, hv (by decide +kernel),
    hr _ (by decide +kernel) (by decide +kernel), (hg someComponents none).mpr ?_⟩
  exact ⟨[("name", .string "api.openai.com")], by simp [someComponents], by decide +kernel⟩

end PolicyGuard.Gate
