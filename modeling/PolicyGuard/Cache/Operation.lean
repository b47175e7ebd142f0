import PolicyGuard.Cache.Basic

/-!
Histories of a cache: operations one after the other, on a clock.

What a caller does at once, an invalidation say, the worker may take up later. So
`forget` is an invalidation that the worker has not taken up yet, `takeUp` is the
refresh for it, and `work` a refresh that was due. Both may end after a stop that did
not wait for them.
-/

namespace PolicyGuard.Cache

/-- An operation, with the answer that the source would give to it. -/
inductive Operation where
  | refresh (answer : Answer)
  | invalidate (answer : Answer)
  | forget
  | takeUp (answer : Answer)
  | work (answer : Answer)
  | stop
  | advance (span : Nat)

/-- Forgets the published content. -/
def forget (c : Cache) : Cache :=
  if c.hasSource then { c with snapshot := c.snapshot.forget } else c

/-- A refresh for an earlier invalidation. What is due stays due. -/
def takeUp (c : Cache) (now : Nat) (answer : Answer) : Cache :=
  if c.hasSource then (c.refresh now answer).2 else c

/-- A refresh that was due. The worker stays alive if it was and can tell
when the next one is due. -/
def work (c : Cache) (now : Nat) (answer : Answer) : Cache :=
  if c.hasSource then
    { (c.refresh now answer).2 with due := c.due.bind fun _ => c.config.due? now }
  else c

/-- A cache and the time. -/
structure Moment where
  cache : Cache
  now : Nat

namespace Moment

def apply (m : Moment) : Operation → Moment
  | .refresh answer => { m with cache := (m.cache.refreshNow m.now answer).2 }
  | .invalidate answer => { m with cache := m.cache.invalidate m.now answer }
  | .forget => { m with cache := m.cache.forget }
  | .takeUp answer => { m with cache := m.cache.takeUp m.now answer }
  | .work answer => { m with cache := m.cache.work m.now answer }
  | .stop => { m with cache := m.cache.stop }
  | .advance span => { m with now := m.now + span }

def run (m : Moment) (operations : List Operation) : Moment :=
  operations.foldl apply m

end Moment

/-- Two caches with the same settings over the same source. -/
structure SameSource (c d : Cache) : Prop where
  config : c.config = d.config
  endpoint : c.endpoint = d.endpoint
  hasSource : c.hasSource = d.hasSource

/-- But for a stop, an operation changes the snapshot, what is due and the number of fetches. -/
theorem exists_apply_eq (m : Moment) {o : Operation} (ho : o ≠ .stop) :
    ∃ snapshot due fetches, (m.apply o).cache = { m.cache with snapshot, due, fetches } := by
  cases o with
  | refresh answer =>
    simp only [Moment.apply, refreshNow]
    split
    · exact ⟨_, _, _, rfl⟩
    · split <;> exact ⟨_, _, _, rfl⟩
  | invalidate answer =>
    simp only [Moment.apply, invalidate]
    split
    · exact ⟨_, _, _, rfl⟩
    · split <;> exact ⟨_, _, _, rfl⟩
  | forget =>
    simp only [Moment.apply, forget]
    split <;> exact ⟨_, _, _, rfl⟩
  | takeUp answer =>
    simp only [Moment.apply, takeUp]
    split <;> exact ⟨_, _, _, rfl⟩
  | work answer =>
    simp only [Moment.apply, work]
    split <;> exact ⟨_, _, _, rfl⟩
  | stop => exact absurd rfl ho
  | advance span => exact ⟨_, _, _, rfl⟩

/-- No operation changes what a cache was made with. -/
theorem sameSource_apply (m : Moment) (o : Operation) : (m.apply o).cache.SameSource m.cache := by
  by_cases ho : o = .stop
  · subst ho
    exact ⟨rfl, rfl, rfl⟩
  · obtain ⟨snapshot, due, fetches, h⟩ := exists_apply_eq m ho
    rw [h]
    exact ⟨rfl, rfl, rfl⟩

theorem sameSource_run (m : Moment) (operations : List Operation) :
    (m.run operations).cache.SameSource m.cache := by
  induction operations generalizing m with
  | nil => exact ⟨rfl, rfl, rfl⟩
  | cons o rest ih =>
    have ho := sameSource_apply m o
    have hr := ih (m.apply o)
    exact ⟨hr.config.trans ho.config, hr.endpoint.trans ho.endpoint,
      hr.hasSource.trans ho.hasSource⟩

end PolicyGuard.Cache
