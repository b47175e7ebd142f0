import PolicyGuard.Interceptor.Settings
import PolicyGuard.Proofs.Stopped

/-!
How long the worker of a cache can go on.

At its start, and after each refresh of its own, the worker tells when the next one is due. Where
the clock cannot hold that time the worker is gone, and nothing brings it back. The shortest
interval is bounded, the longest is not.

* `isSome_due_apply`: what an operation needs to leave the worker alive;
* `isSome_due_run`: the worker is alive exactly if it could tell the last of its times;
* `isHeld_run`: there is a worker to stop until it is stopped;
* `refreshNow_run`: for which settings a refresh on demand reaches the source, and a stop can tell
  how long to wait.
-/

namespace PolicyGuard.Cache

/-! ## One operation -/

theorem Config.isSome_due? (c : Config) (now : Nat) :
    (c.due? now).isSome = true ↔ now + c.interval < clockLimit := by
  unfold due?
  dsimp only
  split
  next h => exact iff_of_true rfl h
  next h => exact iff_of_false Bool.false_ne_true h

/-- Whether the worker tells after an operation when its next refresh is due. -/
def Operation.isWork : Operation → Bool
  | .work _ => true
  | _ => false

/-- A cache with a source, and the last time at which its worker told when its next refresh is
due. The worker is alive only if it could. -/
structure Timed (m : Moment) (told : Nat) : Prop where
  hasSource : m.cache.hasSource = true
  told_le : told ≤ m.now
  fits : m.cache.due.isSome = true → told + m.cache.config.interval < Config.clockLimit

theorem timed_start (config : Config) (endpoint : Option String) (now : Nat) (first : Answer) :
    Timed ⟨start config endpoint now first, now⟩ now where
  hasSource := rfl
  told_le := Nat.le_refl now
  fits := (Config.isSome_due? config now).mp

/-- The last time of this kind after an operation. -/
def toldAfter (m : Moment) (told : Nat) (o : Operation) : Nat :=
  if o.isWork then m.now else told

section Steps

variable {m : Moment} (hs : m.cache.hasSource = true)

theorem now_le_apply (m : Moment) (o : Operation) : m.now ≤ (m.apply o).now := by
  cases o with
  | advance span => exact Nat.le_add_right m.now span
  | refresh _ | invalidate _ | forget | takeUp _ | work _ | stop => exact Nat.le_refl m.now

include hs

/-- A stop takes the worker away, and a refresh of its own does so where it cannot tell when the
next one is due. -/
theorem isSome_due_apply (o : Operation) :
    (m.apply o).cache.due.isSome = true ↔
      m.cache.due.isSome = true ∧ o ≠ .stop ∧
        (o.isWork = true → m.now + m.cache.config.interval < Config.clockLimit) := by
  have hkept : (m.apply o).cache.due = m.cache.due → o ≠ .stop → o.isWork = false →
      ((m.apply o).cache.due.isSome = true ↔ m.cache.due.isSome = true ∧ o ≠ .stop ∧
        (o.isWork = true → m.now + m.cache.config.interval < Config.clockLimit)) := by
    intro hdue hstop hwork
    rw [hdue, hwork]
    exact ⟨fun h => ⟨h, hstop, fun hw => absurd hw Bool.false_ne_true⟩, fun h => h.1⟩
  cases o with
  | refresh answer =>
    refine hkept ?_ Operation.noConfusion rfl
    cases hd : m.cache.due <;> simp [Moment.apply, refreshNow, refresh, hs, hd]
  | invalidate answer =>
    refine hkept ?_ Operation.noConfusion rfl
    cases hd : m.cache.due <;> simp [Moment.apply, invalidate, refresh, hs, hd]
  | forget => exact hkept (due_forget m.cache) Operation.noConfusion rfl
  | takeUp answer =>
    exact hkept (by simp [Moment.apply, takeUp, refresh, hs]) Operation.noConfusion rfl
  | work answer =>
    have hwork : (m.apply (.work answer)).cache.due =
        m.cache.due.bind fun _ => m.cache.config.due? m.now := by
      simp [Moment.apply, work, hs]
    rw [hwork]
    cases hd : m.cache.due with
    | none => simp
    | some due =>
      rw [Option.bind_some, Config.isSome_due?]
      exact ⟨fun h => ⟨rfl, Operation.noConfusion, fun _ => h⟩, fun h => h.2.2 rfl⟩
  | stop => exact iff_of_false Bool.false_ne_true fun h => h.2.1 rfl
  | advance span => exact hkept rfl Operation.noConfusion rfl

end Steps

theorem Timed.apply {m : Moment} {told : Nat} (h : Timed m told) (o : Operation) :
    Timed (m.apply o) (toldAfter m told o) := by
  have hsame := sameSource_apply m o
  have hnow := now_le_apply m o
  refine ⟨hsame.hasSource.trans h.hasSource, ?_, fun hdue => ?_⟩
  · unfold toldAfter
    split
    · exact hnow
    · exact Nat.le_trans h.told_le hnow
  · obtain ⟨hlives, -, hwork⟩ := (isSome_due_apply h.hasSource o).mp hdue
    rw [hsame.config, toldAfter]
    split
    next hw => exact hwork hw
    next => exact h.fits hlives

/-! ## Histories -/

/-- The last time at which the worker tells when its next refresh is due. -/
def lastTold (m : Moment) (told : Nat) : List Operation → Nat
  | [] => told
  | o :: rest => lastTold (m.apply o) (toldAfter m told o) rest

theorem le_lastTold {m : Moment} {told : Nat} (h : told ≤ m.now) (operations : List Operation) :
    told ≤ lastTold m told operations := by
  induction operations generalizing m told with
  | nil => exact Nat.le_refl told
  | cons o rest ih =>
    have hnow := now_le_apply m o
    have hstep : told ≤ toldAfter m told o ∧ toldAfter m told o ≤ (m.apply o).now := by
      unfold toldAfter
      split <;> omega
    exact Nat.le_trans hstep.1 (ih hstep.2)

/-- After any history the worker is alive exactly if it was before, was not stopped, and could tell
the last of its times. The clock does not go back, so it could tell the earlier ones too. -/
theorem isSome_due_run {m : Moment} {told : Nat} (h : Timed m told)
    (operations : List Operation) :
    (m.run operations).cache.due.isSome = true ↔
      m.cache.due.isSome = true ∧ .stop ∉ operations ∧
        lastTold m told operations + m.cache.config.interval < Config.clockLimit := by
  induction operations generalizing m told with
  | nil => exact ⟨fun hd => ⟨hd, List.not_mem_nil, h.fits hd⟩, fun hd => hd.1⟩
  | cons o rest ih =>
    have hrun := ih (h.apply o)
    rw [(sameSource_apply m o).config, isSome_due_apply h.hasSource] at hrun
    rw [List.mem_cons, not_or]
    constructor
    · intro hd
      obtain ⟨⟨hlives, hstop, -⟩, hrest, hlast⟩ := hrun.mp hd
      exact ⟨hlives, ⟨hstop.symm, hrest⟩, hlast⟩
    · rintro ⟨hlives, ⟨hstop, hrest⟩, hlast⟩
      refine hrun.mpr ⟨⟨hlives, Ne.symm hstop, fun hw => ?_⟩, hrest, hlast⟩
      have htold : toldAfter m told o = m.now := if_pos hw
      have hle := le_lastTold (h.apply o).told_le rest
      rw [htold] at hle
      have hcons : lastTold m told (o :: rest) = lastTold (m.apply o) (toldAfter m told o) rest :=
        rfl
      rw [hcons, htold] at hlast
      omega

theorem isHeld_apply {m : Moment} {o : Operation} (ho : o ≠ .stop) :
    (m.apply o).cache.isHeld = m.cache.isHeld := by
  obtain ⟨snapshot, due, fetches, h⟩ := exists_apply_eq m ho
  rw [h]

/-- Only a stop takes the worker away, even if it is gone. -/
theorem isHeld_run {m : Moment} {operations : List Operation} (hs : .stop ∉ operations) :
    (m.run operations).cache.isHeld = m.cache.isHeld := by
  induction operations generalizing m with
  | nil => rfl
  | cons o rest ih =>
    rw [List.mem_cons, not_or] at hs
    exact (ih hs.2).trans (isHeld_apply (Ne.symm hs.1))

theorem stopping_of_held {c : Cache} (h : c.isHeld = true) :
    c.stopping = c.config.grace?.elim .panics .waits :=
  if_pos h

/-- A refresh on demand is one by the worker, if there still is one. -/
theorem refreshNow_eq {c : Cache} (hs : c.hasSource = true) (now : Nat) (answer : Answer) :
    (c.refreshNow now answer).1 =
      if c.due.isSome then (c.refresh now answer).1.mapError .fetch else .error .stopped := by
  cases hd : c.due <;> simp [refreshNow, hs, hd]

end PolicyGuard.Cache

namespace PolicyGuard.Interceptor.Settings

open Cache (Answer Moment Operation)

/-! ## Settings -/

theorem grace?_eq (s : Settings) :
    s.cacheConfig.grace? =
      if s.refreshSeconds < Nat.pow 2 64 - 1 then
        some (max (s.refreshSeconds * 1000) 10 + 1000)
      else none := by
  have hinterval : s.cacheConfig.interval = max (s.refreshSeconds * 1000) 10 := rfl
  have hspan : Cache.Config.spanLimit = 18446744073709551616000 := rfl
  have hlongest : Nat.pow 2 64 - 1 = 18446744073709551615 := rfl
  have hiff : max (s.refreshSeconds * 1000) 10 + 1000 < 18446744073709551616000 ↔
      s.refreshSeconds < 18446744073709551615 := by
    omega
  simp only [Cache.Config.grace?, hinterval, hspan, hlongest, hiff]

/-- Only the longest interval of 64 bits is one that a stop cannot wait for. -/
theorem isSome_grace?_iff (s : Settings) :
    s.cacheConfig.grace?.isSome = true ↔ s.refreshSeconds < Nat.pow 2 64 - 1 := by
  rw [grace?_eq]
  split
  next h => exact iff_of_true rfl h
  next h => exact iff_of_false Bool.false_ne_true h

/-- **The life of a worker.** A cache that was made from settings and was not stopped answers a
refresh on demand from its source as long as the clock could hold each time at which a refresh of
the worker was due, its own clock reading then plus the interval. Once the clock could not, the
worker is gone, and every refresh on demand says that it is stopped. A stop waits for the worker
for a second more than the interval, be it gone or not, and panics if that is the longest interval
of 64 bits; in any case there is nothing left to stop. -/
theorem refreshNow_run (s : Settings) (endpoint : Option String) (now : Nat) (first : Answer)
    (operations : List Operation) (hstop : .stop ∉ operations) :
    let begun : Moment := ⟨.start s.cacheConfig endpoint now first, now⟩
    let m := begun.run operations
    (∀ answer, (m.cache.refreshNow m.now answer).1 =
      if Cache.lastTold begun now operations + max (s.refreshSeconds * 1000) 10 <
          Cache.Config.clockLimit then
        (m.cache.refresh m.now answer).1.mapError .fetch
      else .error .stopped) ∧
    (s.cacheConfig.grace?.isSome = true ↔ s.refreshSeconds < Nat.pow 2 64 - 1) ∧
    m.cache.stopping =
      (if s.refreshSeconds < Nat.pow 2 64 - 1 then
        .waits (max (s.refreshSeconds * 1000) 10 + 1000)
      else .panics) ∧
    m.cache.stop.stopping = .idle := by
  let begun : Moment := ⟨.start s.cacheConfig endpoint now first, now⟩
  have htimed : Cache.Timed begun now := Cache.timed_start s.cacheConfig endpoint now first
  have hsame := Cache.sameSource_run begun operations
  have hinterval : begun.cache.config.interval = max (s.refreshSeconds * 1000) 10 := rfl
  have hlives : (begun.run operations).cache.due.isSome = true ↔
      Cache.lastTold begun now operations + max (s.refreshSeconds * 1000) 10 <
        Cache.Config.clockLimit := by
    rw [Cache.isSome_due_run htimed, hinterval]
    refine ⟨fun h => h.2.2, fun h => ⟨?_, hstop, h⟩⟩
    have hle := Cache.le_lastTold htimed.told_le operations
    refine (Cache.Config.isSome_due? s.cacheConfig now).mpr ?_
    have hsame : s.cacheConfig.interval = max (s.refreshSeconds * 1000) 10 := rfl
    rw [hsame]
    omega
  refine ⟨fun answer => ?_, isSome_grace?_iff s, ?_, rfl⟩
  · rw [Cache.refreshNow_eq (hsame.hasSource.trans htimed.hasSource)]
    simp only [hlives]
    rfl
  · have hheld : (begun.run operations).cache.isHeld = true := Cache.isHeld_run hstop
    have hgrace : (begun.run operations).cache.config.grace? = s.cacheConfig.grace? :=
      congrArg Cache.Config.grace? hsame.config
    show (begun.run operations).cache.stopping = _
    rw [Cache.stopping_of_held hheld, hgrace, grace?_eq]
    split <;> rfl

/-- Settings of an interval, in seconds. -/
def every (refreshSeconds : Nat) : Settings :=
  { default with refreshSeconds }

/-- A day after a start a worker that refreshes every minute still answers, and a stop waits for it
for a minute and a second. One with the longest interval that a file can name never answers, though
nobody stopped it. -/
theorem refreshNow_every :
    (let begun : Moment := ⟨.start (every 60).cacheConfig none 1000 (.ok (.ofText "")), 1000⟩
      let m := begun.run [.advance 60000, .work (.ok (.ofText "")), .advance 86400000]
      (m.cache.refreshNow m.now (.error (.refused "down"))).1 =
        .error (.fetch (.refused "down")) ∧ m.cache.stopping = .waits 61000) ∧
      let begun : Moment :=
        ⟨.start (every 9223372036854775807).cacheConfig none 1000 (.ok (.ofText "")), 1000⟩
      let m := begun.run [.advance 60000]
      (m.cache.refreshNow m.now (.ok (.ofText ""))).1 = .error .stopped := by
  obtain ⟨hanswer, -, hwaits, -⟩ := refreshNow_run (every 60) none 1000 (.ok (.ofText ""))
    [.advance 60000, .work (.ok (.ofText "")), .advance 86400000] (by simp)
  have hlives := hanswer (.error (.refused "down"))
  have hgone := (refreshNow_run (every 9223372036854775807) none 1000 (.ok (.ofText ""))
    [.advance 60000] (by simp)).1 (.ok (.ofText ""))
  have hgrace : max ((every 60).refreshSeconds * 1000) 10 + 1000 = 61000 := by
    decide
  rw [if_pos (by decide)] at hlives
  rw [if_pos (by decide), hgrace] at hwaits
  rw [if_neg (by decide)] at hgone
  exact ⟨⟨hlives, hwaits⟩, hgone⟩

/-- Not every interval of 64 bits keeps the worker. -/
theorem refreshNow_longInterval :
    ¬ ∀ (s : Settings) (now : Nat) (first answer : Answer), s.refreshSeconds < Nat.pow 2 64 →
        now < Cache.Config.clockLimit →
          ((Cache.start s.cacheConfig none now first).refreshNow now answer).1 ≠
            .error .stopped := by
  intro h
  have hlives := h (every 9223372036854775807) 1000 (.ok (.ofText "")) (.ok (.ofText ""))
    (by decide) (by decide)
  exact hlives rfl

end PolicyGuard.Interceptor.Settings
