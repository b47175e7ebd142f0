import PolicyGuard.Interceptor.Scope
import PolicyGuard.Proofs.Lifecycle

/-!
The ends of scopes.

A scope that ends uninstalls its interceptor. That undoes the installation that was made for the
scope, if the registry still has it, and none of another interceptor. But it also undoes a later
installation of its own interceptor, where the first one was undone before.

* `kept_run`: how scopes, installations and their numbers belong together;
* `exists_free`: where the installation of a scope has gone;
* `leave_run`: what the end of a scope does.
-/

namespace PolicyGuard

namespace Registry

theorem release_eq (r : Registry) (owner : String) :
    r.release owner = if r.isInstalledBy owner then ⟨r.originals, none⟩ else r :=
  congrArg Prod.snd (act_eq r (.release owner))

end Registry

namespace Scoped

/-! ## One step -/

/-- The registry has the last installation that was made, or none. The scopes are from before now,
and the one that it was made for is a scope of the installed interceptor. -/
structure Kept (s : Scoped) : Prop where
  isSome_current : s.current.isSome = s.registry.isInstalled
  last : ∀ n ∈ s.current, n + 1 = s.made
  below : ∀ scope ∈ s.scopes, scope.number < s.made
  own : ∀ scope ∈ s.scopes, scope.number ∈ s.current →
    s.registry.isInstalledBy scope.owner = true

theorem kept_start : Kept start where
  isSome_current := rfl
  last := by simp [start]
  below := by simp [start]
  own := by simp [start]

variable {s : Scoped} {after : Registry}

theorem follow_free (h : after.isInstalled = false) :
    s.follow after = { s with registry := after, current := none } := by
  simp [follow, h]

theorem follow_new (hs : s.registry.isInstalled = false) (h : after.isInstalled = true) :
    s.follow after =
      { s with registry := after, made := s.made + 1, current := some s.made } := by
  simp [follow, hs, h]

theorem Kept.follow_self (hk : Kept s) : s.follow s.registry = s := by
  have hc := hk.isSome_current
  cases hi : s.registry.isInstalled with
  | true => simp [follow, hi]
  | false =>
    rw [hi, Option.isSome_eq_false_iff, Option.isNone_iff_eq_none] at hc
    rw [follow_free hi, ← hc]

theorem Kept.follow (hk : Kept s)
    (h : s.registry.isInstalled = true → after = s.registry ∨ after.isInstalled = false) :
    Kept (s.follow after) := by
  cases ha : after.isInstalled with
  | false =>
    rw [follow_free ha]
    exact ⟨ha.symm, by simp, hk.below, by simp⟩
  | true =>
    cases hs : s.registry.isInstalled with
    | true =>
      rcases h hs with rfl | hf
      · rw [hk.follow_self]
        exact hk
      · rw [ha] at hf
        cases hf
    | false =>
      rw [follow_new hs ha]
      refine ⟨ha.symm, by simp, fun scope hm => Nat.lt_succ_of_lt (hk.below scope hm), ?_⟩
      intro scope hm hn
      have hlt := hk.below scope hm
      have heq : s.made = scope.number := Option.some.inj hn
      omega

theorem Kept.of_subset (hk : Kept s) {scopes : List Scope} (h : scopes ⊆ s.scopes) :
    Kept { s with scopes } :=
  ⟨hk.isSome_current, hk.last, fun scope hm => hk.below scope (h hm),
    fun scope hm => hk.own scope (h hm)⟩

theorem Kept.enter (hk : Kept s) (owner : String) : Kept (s.enter owner) := by
  unfold Scoped.enter
  rw [Registry.engage_eq]
  cases hs : s.registry.isInstalled with
  | true =>
    show Kept (s.follow s.registry)
    rw [hk.follow_self]
    exact hk
  | false =>
    have hafter : (s.registry.effect (.install owner)).isInstalled = true := rfl
    have hf : Kept (s.follow (s.registry.effect (.install owner))) :=
      hk.follow fun hi => absurd hi (by simp [hs])
    rw [follow_new hs hafter] at hf
    simp only [Bool.false_eq_true, if_false, follow_new hs hafter]
    refine ⟨hf.isSome_current, hf.last, ?_, ?_⟩
    · rw [List.forall_mem_cons]
      exact ⟨Nat.lt_succ_self _, hf.below⟩
    · rw [List.forall_mem_cons]
      exact ⟨fun _ => by simp [Registry.effect, Registry.isInstalledBy], hf.own⟩

theorem scopes_follow (s : Scoped) (after : Registry) : (s.follow after).scopes = s.scopes := by
  unfold follow
  split
  · rfl
  · split <;> rfl

theorem Kept.leave (hk : Kept s) (scope : Scope) : Kept (s.leave scope) := by
  have hf : Kept (s.follow (s.registry.release scope.owner)) :=
    hk.follow fun hi => Registry.act_of_installed hi (.release scope.owner)
  refine hf.of_subset ?_
  rw [scopes_follow]
  exact List.erase_subset

theorem Kept.step (hk : Kept s) (a : Step) : Kept (s.step a) := by
  cases a with
  | act a => exact hk.follow fun hi => Registry.act_of_installed hi a
  | enter owner => exact hk.enter owner
  | leave scope =>
    show Kept (if scope ∈ s.scopes then s.leave scope else s)
    split
    · exact hk.leave scope
    · exact hk

/-! ## Any history -/

theorem run_concat (s : Scoped) (steps : List Step) (a : Step) :
    s.run (steps ++ [a]) = (s.run steps).step a := by
  simp [run]

theorem kept_run (steps : List Step) : Kept (start.run steps) := by
  induction steps using List.reverseRecOn with
  | nil => exact kept_start
  | append_singleton init a ih =>
    rw [run_concat]
    exact ih.step a

/-- The last installation stays, or goes, or the next one is made. -/
inductive Goes (s : Scoped) : Scoped → Prop
  | stays {t : Scoped} (hm : t.made = s.made) (hc : t.current = s.current) : Goes s t
  | freed {t : Scoped} (hm : t.made = s.made) (hr : t.registry.isInstalled = false) : Goes s t
  | made {t : Scoped} (hr : s.registry.isInstalled = false) (hm : t.made = s.made + 1)
      (hc : t.current = some s.made) : Goes s t

theorem goes_follow (s : Scoped) (after : Registry) : Goes s (s.follow after) := by
  cases ha : after.isInstalled with
  | false =>
    rw [follow_free ha]
    exact .freed rfl ha
  | true =>
    cases hs : s.registry.isInstalled with
    | true => exact .stays (by simp [follow, ha, hs]) (by simp [follow, ha, hs])
    | false =>
      rw [follow_new hs ha]
      exact .made hs rfl rfl

theorem Goes.with_scopes {t : Scoped} (h : Goes s t) (scopes : List Scope) :
    Goes s { t with scopes } := by
  cases h with
  | stays hm hc => exact .stays hm hc
  | freed hm hr => exact .freed hm hr
  | made hr hm hc => exact .made hr hm hc

theorem goes_step (s : Scoped) (a : Step) : Goes s (s.step a) := by
  cases a with
  | act a => exact goes_follow s _
  | enter owner =>
    show Goes s (s.enter owner)
    unfold enter
    split
    · exact (goes_follow s _).with_scopes _
    · exact goes_follow s _
  | leave scope =>
    show Goes s (if scope ∈ s.scopes then s.leave scope else s)
    split
    · exact (goes_follow s _).with_scopes _
    · exact .stays rfl rfl

/-- An installation that the registry no longer has was undone: for a time there was none. -/
theorem exists_free {steps : List Step} {n : Nat} (hn : n < (start.run steps).made)
    (hc : n ∉ (start.run steps).current) :
    ∃ earlier, earlier <+: steps ∧ n < (start.run earlier).made ∧
      (start.run earlier).registry.isInstalled = false := by
  induction steps using List.reverseRecOn with
  | nil => exact absurd hn (Nat.not_lt_zero n)
  | append_singleton init a ih =>
    have hinit (h : n < (start.run init).made) (h' : n ∉ (start.run init).current) :
        ∃ earlier, earlier <+: init ++ [a] ∧ n < (start.run earlier).made ∧
          (start.run earlier).registry.isInstalled = false := by
      obtain ⟨earlier, hp, he⟩ := ih h h'
      exact ⟨earlier, hp.trans (List.prefix_append _ _), he⟩
    have hgoes := goes_step (start.run init) a
    rw [← run_concat] at hgoes
    cases hgoes with
    | stays hm hcur => exact hinit (hm ▸ hn) (hcur ▸ hc)
    | freed hm hr => exact ⟨init ++ [a], List.prefix_refl _, hn, hr⟩
    | made hr hm hcur =>
      have hne : n ≠ (start.run init).made := by
        rintro rfl
        exact hc hcur
      exact ⟨init, List.prefix_append _ _, by omega, hr⟩

/-! ## The end of a scope -/

theorem registry_follow (s : Scoped) (after : Registry) : (s.follow after).registry = after := by
  unfold follow
  split
  · rfl
  · split <;> rfl

/-- The registry at the end of a scope. -/
theorem registry_leave {scope : Scope} (h : scope ∈ s.scopes) :
    (s.step (.leave scope)).registry =
      if s.registry.isInstalledBy scope.owner then ⟨s.registry.originals, none⟩
      else s.registry := by
  have hs : s.step (.leave scope) = s.leave scope := if_pos h
  rw [hs, ← Registry.release_eq]
  exact registry_follow s _

theorem registry_leave_ne_iff {scope : Scope} (h : scope ∈ s.scopes) :
    (s.step (.leave scope)).registry ≠ s.registry ↔
      s.registry.isInstalledBy scope.owner = true := by
  rw [registry_leave h]
  cases hi : s.registry.isInstalledBy scope.owner with
  | false => simp
  | true =>
    have hinstalled := Registry.isInstalled_of_isInstalledBy hi
    simp only [if_true, iff_true]
    intro he
    rw [← he] at hinstalled
    cases hinstalled

/-- **The end of a scope.** After any history the end of a scope changes the registry exactly if the
interceptor of the scope is installed, and then brings back what there was before. So it undoes the
installation that was made for the scope, if the registry still has it, and no installation of
another interceptor. Any other installation that the registry has is a later one, and before it the
one for the scope was undone. -/
theorem leave_run (steps : List Step) {scope : Scope}
    (h : scope ∈ (start.run steps).scopes) :
    let s := start.run steps
    let t := start.run (steps ++ [.leave scope])
    (t.registry ≠ s.registry ↔ s.registry.isInstalledBy scope.owner = true) ∧
      (s.registry.isInstalledBy scope.owner = true →
        t.registry = ⟨s.registry.originals, none⟩) ∧
      (scope.number ∈ s.current → s.registry.isInstalledBy scope.owner = true) ∧
      ∀ n ∈ s.current, n ≠ scope.number → scope.number < n ∧
        ∃ earlier, earlier <+: steps ∧ scope.number < (start.run earlier).made ∧
          (start.run earlier).registry.isInstalled = false := by
  intro s t
  have hk : Kept s := kept_run steps
  have ht : t = s.step (.leave scope) := run_concat start steps (.leave scope)
  have hmade : scope.number < s.made := hk.below scope h
  rw [ht]
  refine ⟨registry_leave_ne_iff h, fun hi => ?_, hk.own scope h, fun n hn hne => ⟨?_, ?_⟩⟩
  · rw [registry_leave h, if_pos hi]
  · have hlast := hk.last n hn
    omega
  · refine exists_free hmade fun hc => hne ?_
    exact Option.some.inj (hn.symm.trans hc)

/-- Another interceptor is installed after the first one was uninstalled within its scope. -/
def handover : List Step :=
  [.act (.register .sync (.backend "plain")), .enter "first", .act (.uninstall "first"),
    .enter "second"]

theorem leave_handover :
    (⟨"first", 0⟩ : Scope) ∈ (start.run handover).scopes ∧
      (⟨"second", 1⟩ : Scope) ∈ (start.run handover).scopes ∧
      (start.run (handover ++ [.leave ⟨"first", 0⟩])).registry = (start.run handover).registry ∧
      (start.run (handover ++ [.leave ⟨"second", 1⟩])).registry =
        ⟨⟨some (.backend "plain"), none, none⟩, none⟩ := by
  have hfirst : (⟨"first", 0⟩ : Scope) ∈ (start.run handover).scopes := by
    decide
  have hsecond : (⟨"second", 1⟩ : Scope) ∈ (start.run handover).scopes := by
    decide
  obtain ⟨hchange, -⟩ := leave_run handover hfirst
  obtain ⟨-, hback, hown, -⟩ := leave_run handover hsecond
  refine ⟨hfirst, hsecond, ?_, hback (hown (by decide))⟩
  exact Decidable.not_not.mp fun hne => absurd (hchange.mp hne) (by decide)

/-- The same interceptor is installed again within its scope. -/
def reentry : List Step :=
  [.enter "guard", .act (.uninstall "guard"), .enter "guard"]

/-- The end of a scope does not undo its own installation only: it also undoes one that was made for
a newer scope of the same interceptor. -/
theorem leave_reentry :
    ¬ ∀ (steps : List Step) (scope : Scope), scope ∈ (start.run steps).scopes →
      (start.run (steps ++ [.leave scope])).registry ≠ (start.run steps).registry →
        scope.number ∈ (start.run steps).current := by
  intro h
  exact absurd (h reentry ⟨"guard", 0⟩ (by decide) (by decide)) (by decide)

end Scoped

end PolicyGuard
