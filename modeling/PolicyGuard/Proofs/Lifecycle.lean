import Mathlib.Data.List.Induction
import PolicyGuard.Interceptor.Registry

/-!
The life of a registry of transports.

Any interceptors may install, uninstall and go away in any order, between registrations
of transports. A call is answered by `rejection?` and `effect` alone: a rejected one leaves
the registry as it was, also an uninstallation that has taken the installation of another
out. What a registry would hold without an interceptor (`originals`) is then what was
registered last, and an installed interceptor stands before just that.

* `act_eq`: what one action does;
* `originals_run`: the transports that were registered last, after any history;
* `exists_installed`: where an installation comes from;
* `installedSince_of_not_mem`: how long an accepted installation lasts;
* `lifecycle`: all of these, with what an uninstallation brings back.
-/

namespace PolicyGuard

theorem Transport.intercepted_ne (name : String) (t : Transport) : .intercepted name t ≠ t := by
  intro h
  have hs := congrArg sizeOf h
  simp only [Transport.intercepted.sizeOf_spec] at hs
  omega

namespace TransportSet

@[simp]
theorem get?_empty (kind : TransportKind) : TransportSet.empty.get? kind = none := by
  cases kind <;> rfl

theorem get?_set (s : TransportSet) (kind : TransportKind) (t : Transport) (k : TransportKind) :
    (s.set kind t).get? k = if k = kind then some t else s.get? k := by
  cases kind <;> cases k <;> rfl

theorem get?_intercepted (s : TransportSet) (name : String) (kind : TransportKind) :
    (s.intercepted name).get? kind = (s.get? kind).map (.intercepted name) := by
  cases kind <;> rfl

end TransportSet

namespace Registry

/-! ## One action -/

/-- The transports without an interceptor before them. -/
def originals (r : Registry) : TransportSet :=
  match r.installation with
  | some i => i.originals
  | none => r.active

/-- Why an action is rejected, if it is. -/
def rejection? (r : Registry) : Action → Option RegistryError
  | .register _ _ | .clear => if r.isInstalled then some .locked else none
  | .install _ => if r.isInstalled then some .alreadyInstalled else none
  | .uninstall owner => if r.isInstalledBy owner then none else some .notInstalled
  | .release _ => none

/-- What an action does that is not rejected. -/
def effect (r : Registry) : Action → Registry
  | .register kind t => { r with active := r.active.set kind t }
  | .clear => { r with active := .empty }
  | .install owner => ⟨r.active.intercepted owner, some ⟨owner, r.active⟩⟩
  | .uninstall _ => ⟨r.originals, none⟩
  | .release owner => if r.isInstalledBy owner then ⟨r.originals, none⟩ else r

/-- The installation is taken out in any case, and put back if it is not one's own. -/
theorem withdraw_eq (r : Registry) (owner : String) :
    r.withdraw owner =
      if r.isInstalledBy owner then (.ok (), ⟨r.originals, none⟩)
      else (.error .notInstalled, r) := by
  obtain ⟨active, installation⟩ := r
  cases installation with
  | none => rfl
  | some i => by_cases h : i.owner = owner <;> simp [withdraw, isInstalledBy, originals, h]

/-- The lock is looked for before anything is written. -/
theorem replace_eq (r : Registry) (active : TransportSet) :
    r.replace active =
      if r.isInstalled then (.error .locked, r) else (.ok (), { r with active }) := by
  cases h : r.isInstalled <;> simp [replace, unlocked, h]

theorem engage_eq (r : Registry) (owner : String) :
    r.engage owner =
      if r.isInstalled then (.error .alreadyInstalled, r)
      else (.ok (), r.effect (.install owner)) :=
  rfl

theorem act_eq (r : Registry) (a : Action) :
    r.act a = match r.rejection? a with
      | some e => (.error e, r)
      | none => (.ok (), r.effect a) := by
  cases a with
  | register kind t =>
    cases h : r.isInstalled <;> simp [act, enrol, replace_eq, rejection?, effect, h]
  | clear =>
    cases h : r.isInstalled <;> simp [act, sweep, replace_eq, rejection?, effect, h]
  | install owner =>
    cases h : r.isInstalled <;> simp [act, engage_eq, rejection?, h]
  | uninstall owner =>
    cases h : r.isInstalledBy owner <;> simp [act, withdraw_eq, rejection?, effect, h]
  | release owner =>
    cases h : r.isInstalledBy owner <;>
      simp [act, release, withdraw_eq, rejection?, effect, h]

theorem act_rejected {r : Registry} {a : Action} {e : RegistryError} (h : r.rejection? a = some e) :
    r.act a = (.error e, r) := by
  rw [act_eq, h]

theorem act_accepted {r : Registry} {a : Action} (h : r.rejection? a = none) :
    r.act a = (.ok (), r.effect a) := by
  rw [act_eq, h]

/-- Whoever is refused has changed nothing. -/
theorem act_of_error {r : Registry} {a : Action} {e : RegistryError} (h : (r.act a).1 = .error e) :
    (r.act a).2 = r := by
  cases hr : r.rejection? a with
  | some e' => rw [act_rejected hr]
  | none =>
    rw [act_accepted hr] at h
    cases h

/-! ## What was registered last -/

/-- The transport of a kind after one more action that is not rejected. -/
def relast (kind : TransportKind) (last : Option Transport) : Action → Option Transport
  | .register k t => if kind = k then some t else last
  | .clear => none
  | .install _ | .uninstall _ | .release _ => last

/-- The transport of a kind that was registered last, and not cleared since. -/
def lastRegistered (kind : TransportKind) (actions : List Action) : Option Transport :=
  actions.foldl (relast kind) none

/-- The actions of a history that are not rejected. -/
def accepted (r : Registry) : List Action → List Action
  | [] => []
  | a :: rest =>
    match (r.act a).1 with
    | .ok () => a :: accepted (r.act a).2 rest
    | .error _ => accepted (r.act a).2 rest

theorem installation_of_free {r : Registry} (h : r.isInstalled = false) :
    r.installation = none := by
  simpa [isInstalled] using h

theorem originals_of_free {r : Registry} (h : r.isInstalled = false) : r.originals = r.active := by
  unfold originals
  rw [installation_of_free h]

/-- A call that looks for a lock is accepted only if there is none. -/
theorem installation_of_unlocked {r : Registry} {e : RegistryError}
    (h : (if r.isInstalled then some e else none) = none) : r.installation = none := by
  apply installation_of_free
  cases hi : r.isInstalled with
  | false => rfl
  | true => simp [hi] at h

/-- An action that is not rejected changes the transports as it says. -/
theorem originals_effect {r : Registry} {a : Action} (h : r.rejection? a = none)
    (kind : TransportKind) :
    (r.effect a).originals.get? kind = relast kind (r.originals.get? kind) a := by
  cases a with
  | register k t =>
    have hf := installation_of_unlocked h
    simp [effect, originals, relast, hf, TransportSet.get?_set]
  | clear =>
    have hf := installation_of_unlocked h
    simp [effect, originals, relast, hf]
  | install owner =>
    have hf := installation_of_unlocked h
    simp [effect, originals, relast, hf]
  | uninstall owner => rfl
  | release owner => cases hi : r.isInstalledBy owner <;> simp [effect, relast, hi, originals]

theorem originals_run (r : Registry) (actions : List Action) (kind : TransportKind) :
    (r.run actions).originals.get? kind =
      (r.accepted actions).foldl (relast kind) (r.originals.get? kind) := by
  induction actions generalizing r with
  | nil => rfl
  | cons a rest ih =>
    rw [run, List.foldl_cons, ← run, ih, accepted]
    cases h : r.rejection? a with
    | some e => rw [act_rejected h]
    | none => rw [act_accepted h, List.foldl_cons, originals_effect h]

/-- The transports of a registry are those that were registered last, whoever is
installed. -/
theorem originals_run_empty (actions : List Action) (kind : TransportKind) :
    (empty.run actions).originals.get? kind = lastRegistered kind (empty.accepted actions) := by
  rw [originals_run]
  simp [lastRegistered, originals, empty]

/-! ## Who is installed -/

theorem run_append (r : Registry) (before after : List Action) :
    r.run (before ++ after) = (r.run before).run after :=
  List.foldl_append ..

theorem run_concat (r : Registry) (actions : List Action) (a : Action) :
    r.run (actions ++ [a]) = ((r.run actions).act a).2 := by
  rw [run_append]
  rfl

/-- At most one interceptor is installed. -/
theorem owner_unique {r : Registry} {a b : String} (ha : r.isInstalledBy a = true)
    (hb : r.isInstalledBy b = true) : a = b := by
  obtain ⟨i, hi, rfl⟩ : ∃ i, r.installation = some i ∧ i.owner = a := by
    simpa [isInstalledBy, Option.any_eq_true] using ha
  simpa [isInstalledBy, hi] using hb

theorem isInstalled_of_isInstalledBy {r : Registry} {owner : String}
    (h : r.isInstalledBy owner = true) : r.isInstalled = true := by
  cases hr : r.installation <;> simp [isInstalledBy, isInstalled, hr] at h ⊢

/-- While an interceptor is installed, only its own uninstallation changes anything. -/
theorem act_of_held {r : Registry} {owner : String} (h : r.isInstalledBy owner = true)
    {a : Action} (hu : a ≠ .uninstall owner) (hr : a ≠ .release owner) : (r.act a).2 = r := by
  have hi : r.isInstalled = true := isInstalled_of_isInstalledBy h
  have hother (other : String) (hne : other ≠ owner) : r.isInstalledBy other = false :=
    Bool.eq_false_iff.mpr fun ho => hne (owner_unique ho h)
  rw [act_eq]
  cases a with
  | register kind t => simp [rejection?, hi]
  | clear => simp [rejection?, hi]
  | install other => simp [rejection?, hi]
  | uninstall other => simp [rejection?, hother other fun he => hu (he ▸ rfl)]
  | release other => simp [rejection?, effect, hother other fun he => hr (he ▸ rfl)]

/-- Whatever happens, an installation stays as it is or goes. -/
theorem act_of_installed {r : Registry} (h : r.isInstalled = true) (a : Action) :
    (r.act a).2 = r ∨ (r.act a).2.isInstalled = false := by
  obtain ⟨i, hi⟩ := Option.isSome_iff_exists.mp h
  have hby : r.isInstalledBy i.owner = true := by simp [isInstalledBy, hi]
  by_cases hu : a = .uninstall i.owner
  · simp [hu, act_eq, rejection?, effect, hby, isInstalled]
  by_cases hr : a = .release i.owner
  · simp [hr, act_eq, rejection?, effect, hby, isInstalled]
  · exact .inl (act_of_held hby hu hr)

/-- Only an installation installs, and by whom it says. -/
theorem act_of_free {r : Registry} (h : r.isInstalled = false) {a : Action} {owner : String}
    (ha : (r.act a).2.isInstalledBy owner = true) : a = .install owner := by
  have hr := installation_of_free h
  rw [act_eq] at ha
  cases a <;> simp [rejection?, effect, isInstalled, isInstalledBy, hr] at ha ⊢
  exact ha

/-- An interceptor was installed after the first actions, on a free registry, and nothing
has changed since. -/
structure InstalledSince (owner : String) (before after : List Action) : Prop where
  free : (empty.run before).isInstalled = false
  stays : ∀ part, part <+: after →
    empty.run (before ++ .install owner :: part) = (empty.run before).effect (.install owner)

theorem installedSince_nil {before : List Action} (h : (empty.run before).isInstalled = false)
    (owner : String) : InstalledSince owner before [] where
  free := h
  stays part hp := by
    have hr : (empty.run before).rejection? (.install owner) = none := by simp [rejection?, h]
    rw [List.prefix_nil.mp hp, run_concat, act_accepted hr]

theorem InstalledSince.concat {owner : String} {before after : List Action}
    (h : InstalledSince owner before after) {a : Action}
    (ha : ((empty.run (before ++ .install owner :: after)).act a).2 =
      empty.run (before ++ .install owner :: after)) :
    InstalledSince owner before (after ++ [a]) where
  free := h.free
  stays part hp := by
    rcases List.prefix_concat_iff.mp hp with rfl | hp
    · rw [← List.cons_append, ← List.append_assoc, run_concat, ha]
      exact h.stays after (List.prefix_refl after)
    · exact h.stays part hp

/-- An installed interceptor was installed by some action, and nothing has changed since. -/
theorem exists_installed {actions : List Action} {owner : String}
    (h : (empty.run actions).isInstalledBy owner = true) :
    ∃ before after, actions = before ++ .install owner :: after ∧
      InstalledSince owner before after := by
  induction actions using List.reverseRecOn with
  | nil => cases h
  | append_singleton init a ih =>
    rw [run_concat] at h
    -- the last action installed the interceptor, or found it installed and changed nothing
    cases hf : (empty.run init).isInstalled with
    | false =>
      obtain rfl := act_of_free hf h
      exact ⟨init, [], rfl, installedSince_nil hf owner⟩
    | true =>
      rcases act_of_installed hf a with hs | hs
      · rw [hs] at h
        obtain ⟨before, after, rfl, hb⟩ := ih h
        exact ⟨before, after ++ [a], by simp, hb.concat hs⟩
      · rw [isInstalled_of_isInstalledBy h] at hs
        cases hs

/-! ## Any history -/

theorem effect_uninstall_install {r : Registry} (h : r.isInstalled = false) (owner : String) :
    (r.effect (.install owner)).effect (.uninstall owner) = r := by
  obtain ⟨active, installation⟩ := r
  obtain rfl : installation = none := installation_of_free h
  rfl

section Installed

variable {owner : String} {before after : List Action} (h : InstalledSince owner before after)

include h

theorem InstalledSince.run_eq :
    empty.run (before ++ .install owner :: after) = (empty.run before).effect (.install owner) :=
  h.stays after (List.prefix_refl after)

theorem InstalledSince.isInstalledBy :
    (empty.run (before ++ .install owner :: after)).isInstalledBy owner = true := by
  rw [h.run_eq]
  simp [effect, Registry.isInstalledBy]

/-- The interceptor stands once before each transport that was there, and before nothing
else. -/
theorem InstalledSince.get?_active (kind : TransportKind) :
    (empty.run (before ++ .install owner :: after)).active.get? kind =
      ((empty.run before).active.get? kind).map (.intercepted owner) := by
  rw [h.run_eq]
  exact TransportSet.get?_intercepted _ owner kind

/-- An uninstallation brings back what there was before the installation. -/
theorem InstalledSince.act_uninstall :
    (empty.run (before ++ .install owner :: after)).act (.uninstall owner) =
      (.ok (), empty.run before) := by
  have hr :
      (empty.run (before ++ .install owner :: after)).rejection? (.uninstall owner) = none := by
    simp [rejection?, h.isInstalledBy]
  rw [act_accepted hr, h.run_eq, effect_uninstall_install h.free]

theorem InstalledSince.release :
    (empty.run (before ++ .install owner :: after)).release owner = empty.run before := by
  have ha := congrArg Prod.snd h.act_uninstall
  unfold Registry.release
  rw [if_pos h.isInstalledBy]
  exact ha

end Installed

/-- An accepted installation lasts until its interceptor is uninstalled or goes away. -/
theorem installedSince_of_not_mem {owner : String} {before after : List Action}
    (hf : (empty.run before).isInstalled = false) (hu : .uninstall owner ∉ after)
    (hr : .release owner ∉ after) : InstalledSince owner before after := by
  induction after using List.reverseRecOn with
  | nil => exact installedSince_nil hf owner
  | append_singleton init a ih =>
    rw [List.mem_append, List.mem_singleton, not_or] at hu hr
    have h : InstalledSince owner before init := ih hu.1 hr.1
    exact h.concat (act_of_held h.isInstalledBy (Ne.symm hu.2) (Ne.symm hr.2))

theorem act_install_iff (r : Registry) (owner : String) :
    (r.act (.install owner)).1 = .ok () ↔ r.isInstalled = false := by
  rw [act_eq]
  cases h : r.isInstalled <;> simp [rejection?, h]

/-- **Life cycle.** After any history at most one interceptor is installed. Without one the
registry holds, kind by kind, the very transport that was registered last. With one it holds
the transports from before that was installed, each behind the interceptor just once, and if
the interceptor is uninstalled or goes away, all is as it was then.

An interceptor can be installed exactly if none is. It then is installed, before the
transports that were there, whatever is done until it is uninstalled or goes away; and that
brings back what was there. Calls are rejected exactly as `rejection?` says, and then nothing
changes. -/
theorem lifecycle (actions : List Action) :
    let r := empty.run actions
    (∀ a b, r.isInstalledBy a = true → r.isInstalledBy b = true → a = b) ∧
      (r.isInstalled = false → ∀ kind,
        r.active.get? kind = lastRegistered kind (empty.accepted actions) ∧
          ∀ t, lastRegistered kind (empty.accepted actions) = some t →
            ∀ owner, r.active.get? kind ≠ some (.intercepted owner t)) ∧
      (∀ owner, r.isInstalledBy owner = true →
        ∃ before after, actions = before ++ .install owner :: after ∧
          InstalledSince owner before after ∧
          (∀ kind, r.active.get? kind =
            ((empty.run before).active.get? kind).map (.intercepted owner)) ∧
          r.act (.uninstall owner) = (.ok (), empty.run before) ∧
          r.release owner = empty.run before) ∧
      (∀ owner, (r.act (.uninstall owner)).1 = .ok () ↔ r.isInstalledBy owner = true) ∧
      (∀ owner, ((r.act (.install owner)).1 = .ok () ↔ r.isInstalled = false) ∧
        ((r.act (.install owner)).1 = .ok () →
          ∀ after, .uninstall owner ∉ after → .release owner ∉ after →
            let held := empty.run (actions ++ .install owner :: after)
            held.isInstalledBy owner = true ∧
              (∀ kind, held.active.get? kind =
                (r.active.get? kind).map (.intercepted owner)) ∧
              held.act (.uninstall owner) = (.ok (), r) ∧
              held.act (.release owner) = (.ok (), r))) ∧
      ∀ a e, ((r.act a).1 = .error e ↔ r.rejection? a = some e) ∧
        ((r.act a).1 = .error e → (r.act a).2 = r) := by
  intro r
  refine ⟨fun _ _ => owner_unique, ?_, ?_, ?_, ?_, ?_⟩
  · intro hf kind
    have hl := originals_run_empty actions kind
    rw [originals_of_free hf] at hl
    refine ⟨hl, fun t ht owner he => ?_⟩
    rw [hl, ht] at he
    exact Transport.intercepted_ne owner t (Option.some.inj he).symm
  · intro owner ho
    obtain ⟨before, after, rfl, h⟩ := exists_installed ho
    exact ⟨before, after, rfl, h, h.get?_active, h.act_uninstall, h.release⟩
  · intro owner
    rw [act_eq]
    cases ho : r.isInstalledBy owner <;> simp [rejection?, ho]
  · refine fun owner => ⟨act_install_iff r owner, fun ha after hu hr => ?_⟩
    have hf : r.isInstalled = false := (act_install_iff r owner).mp ha
    have h : InstalledSince owner actions after := installedSince_of_not_mem hf hu hr
    exact ⟨h.isInstalledBy, h.get?_active, h.act_uninstall,
      congrArg (Prod.mk (Except.ok ())) h.release⟩
  · intro a e
    refine ⟨?_, act_of_error⟩
    rw [act_eq]
    cases r.rejection? a <;> simp

def registrations : List Action :=
  [.register .sync (.backend "old"), .register .sync (.backend "new")]

/-- What is tried while another interceptor is installed. -/
def contest : List Action :=
  [.register .pool (.backend "late"), .install "second", .uninstall "second", .release "second"]

/-- The second interceptor and a registration are refused while the first one is installed. -/
theorem lifecycle_contest :
    let held := empty.run (registrations ++ .install "first" :: contest)
    held.isInstalledBy "first" = true ∧
      held.active.get? .sync = some (.intercepted "first" (.backend "new")) ∧
      held.active.get? .pool = none ∧
      (held.act (.uninstall "second")).2 = held ∧
      (held.act (.release "first")).2.active.get? .sync = some (.backend "new") := by
  intro held
  obtain ⟨-, -, -, -, hi, -⟩ := lifecycle registrations
  obtain ⟨-, -, -, -, -, hr⟩ := lifecycle (registrations ++ .install "first" :: contest)
  obtain ⟨hby, hg, -, hl⟩ := (hi "first").2 rfl contest (by decide) (by decide)
  refine ⟨hby, ?_, ?_, (hr (.uninstall "second") .notInstalled).2 rfl, ?_⟩
  · rw [hg]
    rfl
  · rw [hg]
    rfl
  · rw [hl]
    rfl

end Registry

end PolicyGuard
