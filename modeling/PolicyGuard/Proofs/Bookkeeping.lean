import PolicyGuard.Proofs.CacheRefinement

/-!
The books of a cache.

A ledger follows a history and notes which text was published last, going by what the
refreshes answered, and whether there has been an invalidation since. The fields of the
snapshot agree with it (`Snapshot.Kept`), so that it tells the outcome of the next refresh:
`Ledger.IsNews` says which answers of the source are published.

* `kept_refresh`, `kept_apply`, `kept_run`: the invariant, over one refresh, one operation and
  any history;
* `isCurrent_iff`: what the comparison of hashes comes to;
* `books_run`: the invariant, and the next refresh, after any history.
-/

namespace PolicyGuard.Cache

/-- The published evaluator. It is known by the generation that it began. -/
def Snapshot.evaluator? (s : Snapshot) : Option (Nat × List Policy.Rule) :=
  s.rules.map fun rules => (s.generation, rules)

/-- The text that was published last, and whether it was invalidated since. -/
structure Ledger where
  published : Option String
  isForgotten : Bool

namespace Ledger

def empty : Ledger :=
  ⟨none, false⟩

/-- Notes the outcome of a refresh with the answer that it got. -/
def enter (l : Ledger) (answer : Answer) (outcome : Except FetchError Outcome) : Ledger :=
  match answer, outcome with
  | .ok bundle, .ok (.published _) => ⟨some bundle.combined, false⟩
  | _, _ => l

def forget (l : Ledger) : Ledger :=
  { l with isForgotten := true }

/-- Notes an operation on a cache with a source. -/
def apply (l : Ledger) (m : Moment) : Operation → Ledger
  | .refresh answer =>
    if m.cache.due.isNone then l else l.enter answer (m.cache.refresh m.now answer).1
  | .invalidate answer =>
    if m.cache.due.isNone then l.forget
    else l.forget.enter answer (m.cache.forget.refresh m.now answer).1
  | .forget => l.forget
  | .takeUp answer | .work answer => l.enter answer (m.cache.refresh m.now answer).1
  | .stop | .advance _ => l

def run (l : Ledger) (m : Moment) : List Operation → Ledger
  | [] => l
  | o :: rest => (l.apply m o).run (m.apply o) rest

/-- The ledger of a new cache, whose first refresh is done. -/
def start (now : Nat) (first : Answer) : Ledger :=
  empty.enter first (Snapshot.empty.refresh now first).1

/-- A success that brings another text than the one published last, or that follows an
invalidation of it. -/
def IsNews (l : Ledger) (answer : Answer) : Prop :=
  ∃ bundle, answer = .ok bundle ∧ (l.published ≠ some bundle.combined ∨ l.isForgotten = true)

end Ledger

/-! ## The invariant -/

/-- How the fields of a snapshot hang together, and what they have to do with the ledger. -/
structure Snapshot.Kept (s : Snapshot) (l : Ledger) : Prop where
  generation : s.rules.isSome = true ↔ 1 ≤ s.generation
  lastSuccess : s.rules.isSome = true ↔ s.lastSuccess.isSome = true
  successes : s.rules.isSome = true ↔ 1 ≤ s.successes
  counted : s.generation ≤ s.successes
  rules : s.rules = l.published.map Policy.read
  contentHash : s.contentHash = match l.published, l.isForgotten with
    | some text, false => Cache.contentHash text
    | _, _ => ""

theorem kept_empty : Snapshot.empty.Kept .empty := by
  constructor <;> simp [Snapshot.empty, Ledger.empty]

theorem kept_forget {s : Snapshot} {l : Ledger} (h : s.Kept l) : s.forget.Kept l.forget where
  generation := h.generation
  lastSuccess := h.lastSuccess
  successes := h.successes
  counted := h.counted
  rules := h.rules
  contentHash := by simp [Snapshot.forget, Ledger.forget]

/-- A hash that is the published one is no empty one, so something is published. -/
theorem exists_published {s : Snapshot} {l : Ledger} (h : s.Kept l) {text : String}
    (hc : s.isCurrent (contentHash text) = true) :
    ∃ published, l = ⟨some published, false⟩ ∧ contentHash published = contentHash text := by
  have hh : s.contentHash = contentHash text := by
    simpa [Snapshot.isCurrent] using hc
  have hl := h.contentHash
  obtain ⟨published, isForgotten⟩ := l
  cases published with
  | none => exact absurd (hh.symm.trans hl) (contentHash_ne_empty text)
  | some published =>
    cases isForgotten with
    | true => exact absurd (hh.symm.trans hl) (contentHash_ne_empty text)
    | false => exact ⟨published, rfl, hl.symm.trans hh⟩

theorem kept_renew {s : Snapshot} {l : Ledger} (h : s.Kept l) (hl : l.published.isSome = true)
    (now : Nat) : (s.renew now).Kept l where
  generation := h.generation
  lastSuccess := by simp [Snapshot.renew, h.rules, hl]
  successes := by simp [Snapshot.renew, h.rules, hl]
  counted := Nat.le_succ_of_le h.counted
  rules := h.rules
  contentHash := h.contentHash

theorem kept_publish {s : Snapshot} {l : Ledger} (h : s.Kept l) (now : Nat) (text : String) :
    (s.publish now text).Kept ⟨some text, false⟩ where
  generation := by simp [Snapshot.publish]
  lastSuccess := by simp [Snapshot.publish]
  successes := by simp [Snapshot.publish]
  counted := Nat.succ_le_succ h.counted
  rules := rfl
  contentHash := rfl

theorem refresh_of_current {s : Snapshot} {bundle : Bundle}
    (h : s.isCurrent (contentHash bundle.combined) = true) (now : Nat) :
    s.refresh now (.ok bundle) = (.ok .unchanged, s.renew now) := by
  simp only [Snapshot.refresh, h, ↓reduceIte]

theorem refresh_of_other {s : Snapshot} {bundle : Bundle}
    (h : ¬ s.isCurrent (contentHash bundle.combined) = true) (now : Nat) :
    s.refresh now (.ok bundle) =
      (.ok (.published (Policy.read bundle.combined).length), s.publish now bundle.combined) := by
  simp only [Snapshot.refresh, h, Bool.false_eq_true, ↓reduceIte]

/-- One refresh keeps the books, with any answer. -/
theorem kept_refresh {s : Snapshot} {l : Ledger} (h : s.Kept l) (now : Nat) (answer : Answer) :
    (s.refresh now answer).2.Kept (l.enter answer (s.refresh now answer).1) := by
  cases answer with
  | error e => exact h
  | ok bundle =>
    by_cases hc : s.isCurrent (contentHash bundle.combined) = true
    · -- a text was published, so the answer only renews its time
      obtain ⟨published, rfl, -⟩ := exists_published h hc
      rw [refresh_of_current hc]
      exact kept_renew h rfl now
    · rw [refresh_of_other hc]
      exact kept_publish h now bundle.combined

theorem kept_apply {m : Moment} {l : Ledger} (hs : m.cache.hasSource = true)
    (h : m.cache.snapshot.Kept l) (o : Operation) :
    (m.apply o).cache.hasSource = true ∧ (m.apply o).cache.snapshot.Kept (l.apply m o) := by
  cases o with
  | refresh answer =>
    cases hd : m.cache.due with
    | none => simpa [Moment.apply, refreshNow, Ledger.apply, hs, hd] using h
    | some due =>
      simpa [Moment.apply, refreshNow, Ledger.apply, refresh, hs, hd] using
        kept_refresh h m.now answer
  | invalidate answer =>
    have hf := kept_forget h
    cases hd : m.cache.due with
    | none => simpa [Moment.apply, invalidate, Ledger.apply, hs, hd] using hf
    | some due =>
      simpa [Moment.apply, invalidate, Ledger.apply, refresh, forget, hs, hd] using
        kept_refresh hf m.now answer
  | forget => simpa [Moment.apply, forget, Ledger.apply, hs] using kept_forget h
  | takeUp answer =>
    simpa [Moment.apply, takeUp, Ledger.apply, refresh, hs] using kept_refresh h m.now answer
  | work answer =>
    simpa [Moment.apply, work, Ledger.apply, refresh, hs] using kept_refresh h m.now answer
  | stop => exact ⟨hs, h⟩
  | advance span => exact ⟨hs, h⟩

theorem kept_run {m : Moment} {l : Ledger} (hs : m.cache.hasSource = true)
    (h : m.cache.snapshot.Kept l) (operations : List Operation) :
    (m.run operations).cache.hasSource = true ∧
      (m.run operations).cache.snapshot.Kept (l.run m operations) := by
  induction operations generalizing m l with
  | nil => exact ⟨hs, h⟩
  | cons o rest ih =>
    obtain ⟨hs', h'⟩ := kept_apply hs h o
    exact ih hs' h'

/-! ## Which texts are published -/

/-- Only a text that the source gave is ever published. -/
theorem published_enter {l : Ledger} {texts : List String} (h : ∀ t ∈ l.published, t ∈ texts)
    {answer : Answer} (ha : Answer.texts answer ⊆ texts) (outcome : Except FetchError Outcome) :
    ∀ t ∈ (l.enter answer outcome).published, t ∈ texts := by
  intro t ht
  unfold Ledger.enter at ht
  split at ht
  · obtain rfl := Option.some.inj ht
    exact ha (List.mem_cons_self ..)
  · exact h t ht

theorem published_apply {l : Ledger} {texts : List String} (h : ∀ t ∈ l.published, t ∈ texts)
    (m : Moment) {o : Operation} (ho : o.texts ⊆ texts) :
    ∀ t ∈ (l.apply m o).published, t ∈ texts := by
  cases o with
  | refresh answer =>
    cases hd : m.cache.due.isNone with
    | true => simpa [Ledger.apply, hd] using h
    | false => simpa [Ledger.apply, hd] using published_enter h ho _
  | invalidate answer =>
    have hf : ∀ t ∈ l.forget.published, t ∈ texts := h
    cases hd : m.cache.due.isNone with
    | true => simpa [Ledger.apply, hd] using hf
    | false => simpa [Ledger.apply, hd] using published_enter hf ho _
  | takeUp answer | work answer => exact published_enter h ho _
  | forget | stop | advance span => exact h

theorem published_run {l : Ledger} {texts : List String} (h : ∀ t ∈ l.published, t ∈ texts)
    (m : Moment) (operations : List Operation) (ho : ∀ o ∈ operations, o.texts ⊆ texts) :
    ∀ t ∈ (l.run m operations).published, t ∈ texts := by
  induction operations generalizing m l with
  | nil => exact h
  | cons o rest ih =>
    rw [List.forall_mem_cons] at ho
    exact ih (published_apply h m ho.1) _ ho.2

/-- The published hash is the one of a text if just that text was published last, and not
invalidated since. -/
theorem isCurrent_iff {s : Snapshot} {l : Ledger} {texts : List String} (hd : Distinguished texts)
    (h : s.Kept l) (hp : ∀ t ∈ l.published, t ∈ texts) {text : String} (ht : text ∈ texts) :
    s.isCurrent (contentHash text) = true ↔ l.published = some text ∧ l.isForgotten = false := by
  constructor
  · intro hc
    obtain ⟨published, rfl, he⟩ := exists_published h hc
    exact ⟨congrArg some (hd published (hp published rfl) text ht he), rfl⟩
  · rintro ⟨hl, hf⟩
    have hh := h.contentHash
    rw [hl, hf] at hh
    simpa [Snapshot.isCurrent] using hh

/-! ## The next refresh -/

/-- What a refresh with an answer of the source does to a snapshot. -/
structure Booked (s : Snapshot) (now : Nat) (answer : Answer)
    (outcome : Except FetchError Outcome) (after : Snapshot) : Prop where
  grows_iff : after.generation = s.generation + 1 ↔ ∃ n, outcome = .ok (.published n)
  same : (¬ ∃ n, outcome = .ok (.published n)) → after.evaluator? = s.evaluator?
  failed : ∀ e, answer = .error e → outcome = .error e ∧ after = s
  succeeded : ∀ bundle, answer = .ok bundle →
    after.successes = s.successes + 1 ∧ after.lastSuccess = some now

theorem booked_refresh (s : Snapshot) (now : Nat) (answer : Answer) :
    Booked s now answer (s.refresh now answer).1 (s.refresh now answer).2 := by
  cases answer with
  | error e => constructor <;> simp [Snapshot.refresh]
  | ok bundle =>
    by_cases hc : s.isCurrent (contentHash bundle.combined) = true
    · rw [refresh_of_current hc]
      constructor <;> simp [Snapshot.renew, Snapshot.evaluator?]
    · rw [refresh_of_other hc]
      constructor <;> simp [Snapshot.publish]

/-- A refresh publishes what is news to the ledger. -/
theorem published_iff {s : Snapshot} {l : Ledger} {texts : List String} (hd : Distinguished texts)
    (h : s.Kept l) (hp : ∀ t ∈ l.published, t ∈ texts) (now : Nat) {answer : Answer}
    (ha : Answer.texts answer ⊆ texts) :
    (∃ n, (s.refresh now answer).1 = .ok (.published n)) ↔ l.IsNews answer := by
  cases answer with
  | error e => simp [Snapshot.refresh, Ledger.IsNews]
  | ok bundle =>
    have hi := isCurrent_iff hd h hp (ha (List.mem_cons_self ..))
    have hn : l.IsNews (.ok bundle) ↔ ¬ s.isCurrent (contentHash bundle.combined) = true := by
      rw [hi, Classical.not_and_iff_not_or_not, Bool.not_eq_false]
      simp [Ledger.IsNews]
    by_cases hc : s.isCurrent (contentHash bundle.combined) = true
    · simp [refresh_of_current hc, hn, hc]
    · simp [refresh_of_other hc, hn, hc]

/-- **Bookkeeping.** After any history of a cache with a source its snapshot agrees with the
ledger. A refresh with any answer keeps the evaluator, unless it publishes the next one, and
it publishes just what is news to the ledger. On demand that refresh is what a caller gets
while the worker lives; afterwards a caller gets nothing and changes nothing. -/
theorem books_run (config : Config) (endpoint : Option String) (now : Nat) (first : Answer)
    (operations : List Operation) (answer : Answer) :
    let m := Moment.run ⟨.start config endpoint now first, now⟩ operations
    let l := (Ledger.start now first).run ⟨.start config endpoint now first, now⟩ operations
    let refreshed := m.cache.snapshot.refresh m.now answer
    m.cache.snapshot.Kept l ∧
      Booked m.cache.snapshot m.now answer refreshed.1 refreshed.2 ∧
      (Distinguished (historyTexts first operations ++ Answer.texts answer) →
        ((∃ n, refreshed.1 = .ok (.published n)) ↔ l.IsNews answer)) ∧
      (m.cache.due.isSome = true →
        (m.cache.refreshNow m.now answer).1 = refreshed.1.mapError .fetch ∧
          (m.cache.refreshNow m.now answer).2.snapshot = refreshed.2) ∧
      (m.cache.due = none → m.cache.refreshNow m.now answer = (.error .stopped, m.cache)) := by
  intro m l refreshed
  have hk : (Cache.start config endpoint now first).snapshot.Kept (Ledger.start now first) :=
    kept_refresh kept_empty now first
  obtain ⟨hs, hm⟩ := kept_run (m := ⟨.start config endpoint now first, now⟩) rfl hk operations
  refine ⟨hm, booked_refresh m.cache.snapshot m.now answer, ?_, ?_, ?_⟩
  · intro hd
    have hf : Answer.texts first ⊆ historyTexts first operations ++ Answer.texts answer :=
      fun t ht => List.mem_append_left _ (List.mem_append_left _ ht)
    have ho : ∀ o ∈ operations, o.texts ⊆ historyTexts first operations ++ Answer.texts answer :=
      fun o hm t ht => List.mem_append_left _
        (List.mem_append_right _ (List.mem_flatMap.mpr ⟨o, hm, ht⟩))
    have hp : ∀ t ∈ (Ledger.start now first).published,
        t ∈ historyTexts first operations ++ Answer.texts answer :=
      published_enter (by simp [Ledger.empty]) hf _
    exact published_iff hd hm (published_run hp _ operations ho) m.now
      (List.subset_append_right ..)
  · intro hl
    have hn : m.cache.due.isNone = false := by simpa using hl
    simp [refreshNow, hs, hn, refresh, m, refreshed]
  · intro hl
    simp [refreshNow, hs, hl, m]

/-! A history with a failure, another text and an invalidation: the same text is then news.
After a stop nobody asks for it. -/

def forgottenHistory : List Operation :=
  [.work (.error (.refused "down")), .refresh (.ok (.ofText "")), .forget]

theorem books_forgottenHistory :
    Distinguished (historyTexts noPostsAnswer forgottenHistory ++
        Answer.texts (.ok (.ofText ""))) ∧
      (let m := Moment.run ⟨.start .default none 0 noPostsAnswer, 0⟩ forgottenHistory
       m.cache.due.isSome = true ∧
        ∃ n, (m.cache.refreshNow m.now (.ok (.ofText ""))).1 = .ok (.published n)) ∧
      let m := Moment.run ⟨.start .default none 0 noPostsAnswer, 0⟩ (forgottenHistory ++ [.stop])
      m.cache.due = none ∧
        m.cache.refreshNow m.now (.ok (.ofText "")) = (.error .stopped, m.cache) := by
  have hd : Distinguished (historyTexts noPostsAnswer forgottenHistory ++
      Answer.texts (.ok (.ofText ""))) := by
    unfold Distinguished
    decide +kernel
  have hl : (Moment.run ⟨.start .default none 0 noPostsAnswer, 0⟩
      forgottenHistory).cache.due.isSome = true := by
    decide +kernel
  have hn : ((Ledger.start 0 noPostsAnswer).run ⟨.start .default none 0 noPostsAnswer, 0⟩
      forgottenHistory).IsNews (.ok (.ofText "")) :=
    ⟨.ofText "", rfl, Or.inr (by decide +kernel)⟩
  have hs : (Moment.run ⟨.start .default none 0 noPostsAnswer, 0⟩
      (forgottenHistory ++ [.stop])).cache.due = none := by
    decide +kernel
  obtain ⟨-, -, hp, ha, -⟩ :=
    books_run .default none 0 noPostsAnswer forgottenHistory (.ok (.ofText ""))
  obtain ⟨-, -, -, -, hr⟩ :=
    books_run .default none 0 noPostsAnswer (forgottenHistory ++ [.stop]) (.ok (.ofText ""))
  obtain ⟨n, ho⟩ := (hp hd).mpr hn
  refine ⟨hd, ⟨hl, n, ?_⟩, hs, hr hs⟩
  rw [(ha hl).1, ho]
  rfl

end PolicyGuard.Cache
