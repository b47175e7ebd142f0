import PolicyGuard.Cache.Bundle
import PolicyGuard.Proofs.Statement

/-!
What the policies of a bundle have to do with one another.

The enabled policies are joined as text before they are read, so a policy may leave a
statement open that the text of later ones completes; the statement then has the effect
that the first policy gives it (`Crossing`). `Apart` says that this does not happen. What a
policy does that ends inside quotes is not said here.

* `all_join`: the statements of policies that are apart;
* `exists_crossing`: policies that are not apart have a statement in common;
* `rules_combined`: both for the rules of a bundle.
-/

namespace PolicyGuard.Policy

/-- Policies as one text, each on lines of its own. -/
def join (policies : List String) : List Char :=
  ("\n".intercalate policies).toList

/-- A statement that starts in a policy, which gives it the effect, at a place where the
policy by itself has none, and that later text completes. -/
def Crossing (policy : String) (later : List Char) (s : Statement) : Prop :=
  ∃ place ∈ Text.missesFrom Statement.read? 0 none (stripComments policy.toList),
    (∃ rest, Statement.effect? place.2 = some (s.effect, rest)) ∧
    ∃ n, Statement.read? place.1 (place.2 ++ '\n' :: stripComments later) = some (s, n)

/-- The later text completes no statement of the policy. -/
def Closed (policy : String) (later : List Char) : Prop :=
  ∀ place ∈ Text.missesFrom Statement.read? 0 none (stripComments policy.toList),
    Statement.read? place.1 (place.2 ++ '\n' :: stripComments later) = none

/-- No policy leaves a statement open that those after it complete. -/
def Apart : List String → Prop
  | [] => True
  | [_] => True
  | p :: q :: rest => Closed p (join (q :: rest)) ∧ Apart (q :: rest)

instance (policy : String) (later : List Char) : Decidable (Closed policy later) :=
  inferInstanceAs (Decidable (∀ place ∈ _, _))

instance decidableApart : (policies : List String) → Decidable (Apart policies)
  | [] => isTrue trivial
  | [_] => isTrue trivial
  | p :: q :: rest =>
    have := decidableApart (q :: rest)
    inferInstanceAs (Decidable (Closed p (join (q :: rest)) ∧ Apart (q :: rest)))

theorem stripComments_join {p q : String} {rest : List String} (h : QuotesClosed p.toList) :
    stripComments (join (p :: q :: rest)) =
      stripComments p.toList ++ '\n' :: stripComments (join (q :: rest)) := by
  have hj : join (p :: q :: rest) = p.toList ++ '\n' :: join (q :: rest) := by
    unfold join
    rw [String.intercalate_cons_cons, String.toList_append, String.toList_append,
      List.append_assoc]
    rfl
  rw [hj, stripComments_newline h]

theorem all_append {p : String} {later : List Char} (h : Closed p later) :
    Statement.all (stripComments p.toList ++ '\n' :: stripComments later) =
      Statement.all (stripComments p.toList) ++ Statement.all (stripComments later) := by
  have hf := Text.findFrom_append Statement.settled_read? (Nat.zero_le _) h
  rw [Statement.findFrom_newline] at hf
  exact hf

/-- The statements of policies that are apart are those of each. -/
theorem all_join {policies : List String} (ha : Apart policies)
    (hq : ∀ p ∈ policies.dropLast, QuotesClosed p.toList) :
    Statement.all (stripComments (join policies)) =
      policies.flatMap fun p => Statement.all (stripComments p.toList) := by
  induction policies with
  | nil => rfl
  | cons p rest ih =>
    cases rest with
    | nil =>
      rw [join, String.intercalate_singleton, List.flatMap_singleton]
    | cons q rest =>
      rw [List.dropLast_cons_cons, List.forall_mem_cons] at hq
      have hr := ih ha.2 hq.2
      rw [stripComments_join hq.1, all_append ha.1, hr]
      rfl

/-- Of policies that are not apart, one and those after it have a statement in common, and
the joined text is read so. -/
theorem exists_crossing {policies : List String} (ha : ¬ Apart policies)
    (hq : ∀ p ∈ policies.dropLast, QuotesClosed p.toList) :
    ∃ before p q after s, policies = before ++ p :: q :: after ∧
      Crossing p (join (q :: after)) s ∧ s ∈ Statement.all (stripComments (join policies)) := by
  induction policies with
  | nil => exact absurd trivial ha
  | cons p rest ih =>
    cases rest with
    | nil => exact absurd trivial ha
    | cons q rest =>
      rw [List.dropLast_cons_cons, List.forall_mem_cons] at hq
      rw [stripComments_join hq.1]
      by_cases hc : Closed p (join (q :: rest))
      · have hr : ¬ Apart (q :: rest) := fun hr => ha ⟨hc, hr⟩
        obtain ⟨before, p', q', after, s, he, hs, hm⟩ := ih hr hq.2
        refine ⟨p :: before, p', q', after, s, by rw [he, List.cons_append], hs, ?_⟩
        rw [all_append hc]
        exact List.mem_append_right _ hm
      · simp only [Closed, Classical.not_forall] at hc
        obtain ⟨place, hp, hn⟩ := hc
        obtain ⟨place', hp', s, n, hs, hm⟩ :=
          Text.exists_findFrom_of_miss Statement.settled_read? (Nat.zero_le _) ⟨place, hp, hn⟩
        obtain ⟨-, tail, hh, -⟩ := Statement.exists_of_read? hs
        obtain ⟨tail', he⟩ := Statement.exists_effect?_of_head? hh
        have hf := Statement.exists_effect?_of_newline he
        exact ⟨[], p, q, rest, s, rfl, ⟨place', hp', hf, n, hs⟩, hm⟩

end PolicyGuard.Policy

namespace PolicyGuard.Cache.Bundle

open Policy (Apart Crossing QuotesClosed Statement join stripComments)

/-- The texts of the enabled entries. -/
def policies (b : Bundle) : List String :=
  (b.entries.filter Entry.enabled).map Entry.policy

theorem toList_combined (b : Bundle) : b.combined.toList = join b.policies :=
  rfl

theorem read_combined {b : Bundle} (ha : Apart b.policies)
    (hq : ∀ p ∈ b.policies.dropLast, QuotesClosed p.toList) :
    Policy.read b.combined = b.policies.flatMap Policy.read := by
  rw [Policy.read, toList_combined, Policy.all_join ha hq, List.flatMap_assoc]
  rfl

/-- The bundle without its disabled entries. -/
def enabledOnly (b : Bundle) : Bundle :=
  ⟨b.entries.filter Entry.enabled⟩

theorem combined_enabledOnly (b : Bundle) : b.enabledOnly.combined = b.combined := by
  simp [combined, enabledOnly]

/-- A policy without an end, and one that it swallows. -/
def openBundle : Bundle :=
  ⟨[⟨true, "forbid (principal, action, resource) when \x7b"⟩,
    ⟨true, "permit (principal, action, resource) when \x7b a.b == 1 \x7d;"⟩]⟩

/-- Not every bundle has the rules of its enabled entries: here a permit becomes a forbid. -/
theorem rules_openBundle :
    ¬ ∀ b : Bundle, Policy.read b.combined = b.policies.flatMap Policy.read := by
  intro h
  exact absurd (h openBundle) (by decide +kernel)

/-- **Isolation.** Disabled entries say nothing. The rules of enabled ones that end outside
quotes are those of each, in order, unless one leaves a statement open that those after it
complete; then the joined text is read as having such a statement, with the effect that the
first one gives it. -/
theorem rules_combined (b : Bundle) :
    Policy.read b.enabledOnly.combined = Policy.read b.combined ∧
      ((∀ p ∈ b.policies.dropLast, QuotesClosed p.toList) →
        (Apart b.policies → Policy.read b.combined = b.policies.flatMap Policy.read) ∧
        (¬ Apart b.policies → ∃ before p q after s, b.policies = before ++ p :: q :: after ∧
          Crossing p (join (q :: after)) s ∧
          s ∈ Statement.all (stripComments b.combined.toList))) := by
  constructor
  · rw [combined_enabledOnly]
  · intro hq
    exact ⟨fun ha => read_combined ha hq, fun ha => Policy.exists_crossing ha hq⟩

/-- A malformed policy without an end, a disabled one, and one with a quote too many. -/
def looseBundle : Bundle :=
  ⟨[⟨true, "forbid (principal, resource) when \x7b"⟩,
    ⟨false, "forbid (principal, action, resource) when \x7b a.b == 1 \x7d;"⟩,
    ⟨true, "permit (principal, action, resource) when \x7b a.b == 1 \x7d; \""⟩]⟩

theorem rules_looseBundle :
    (Policy.read looseBundle.combined).map (fun r => (r.effect, r.field)) = [(.permit, "b")] ∧
      ∃ before p q after s, openBundle.policies = before ++ p :: q :: after ∧
        Crossing p (join (q :: after)) s ∧
        s ∈ Statement.all (stripComments openBundle.combined.toList) := by
  have hl : ∀ p ∈ looseBundle.policies.dropLast, QuotesClosed p.toList := by
    decide +kernel
  have ha : Apart looseBundle.policies := by
    decide +kernel
  have ho : ∀ p ∈ openBundle.policies.dropLast, QuotesClosed p.toList := by
    decide +kernel
  have hn : ¬ Apart openBundle.policies := by
    decide +kernel
  have hr : Policy.read looseBundle.combined = looseBundle.policies.flatMap Policy.read :=
    ((rules_combined looseBundle).2 hl).1 ha
  refine ⟨?_, ((rules_combined openBundle).2 ho).2 hn⟩
  rw [hr]
  decide +kernel

end PolicyGuard.Cache.Bundle
