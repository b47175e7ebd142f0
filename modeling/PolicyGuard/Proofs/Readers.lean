import PolicyGuard.Cache.Plain
import PolicyGuard.Cache.Reader
import PolicyGuard.Proofs.Invalidation

/-!
What readers see while the worker refreshes and callers invalidate.

A refresh compares in one critical section and renews the time of the last success in a later
one, and the content may be forgotten in between. The rules are not replaced there, so the time
still goes with the text that was compared (`Faithful.renewing`).

* `reflects_publish`, `reflects_renew`: the writers of a snapshot, on a history of successes;
* `faithful_step`: what the worker and its history keep;
* `informed_run`: what the readers keep besides, in any run;
* `reads_run`: every look and every answer in any run.
-/

namespace PolicyGuard.Cache

/-- A snapshot is the one after a history of successes. Its time is the one of the last of them,
and its rules are those of the text that this one fetched. They were read by a refresh that
fetched the same text and began the generation. -/
structure Snapshot.Reflects (s : Snapshot) (past : List Success) : Prop where
  lastSuccess : s.lastSuccess = past.getLast?.map Success.time
  rules : s.rules = past.getLast?.map fun last => Policy.read last.text
  began : ∀ last ∈ past.getLast?,
    ∃ first ∈ past, first.text = last.text ∧ first.generation? = some s.generation
  contentHash : s.contentHash = "" ∨
    ∃ last ∈ past.getLast?, s.contentHash = Cache.contentHash last.text
  generation : s.generation = past.countP fun success => success.generation?.isSome
  successes : s.successes = past.length

theorem reflects_empty : Snapshot.empty.Reflects [] := by
  constructor <;> simp [Snapshot.empty]

section Writers

variable {s : Snapshot} {past : List Success} (h : s.Reflects past)

include h

theorem reflects_forget : s.forget.Reflects past :=
  ⟨h.lastSuccess, h.rules, h.began, .inl rfl, h.generation, h.successes⟩

theorem reflects_publish (now : Nat) (text : String) :
    (s.publish now text).Reflects (past ++ [⟨text, now, some (s.generation + 1)⟩]) where
  lastSuccess := by simp [Snapshot.publish]
  rules := by simp [Snapshot.publish]
  began := by simp [Snapshot.publish]
  contentHash := .inr (by simp [Snapshot.publish])
  generation := by simp [Snapshot.publish, h.generation]
  successes := by simp [Snapshot.publish, h.successes]

/-- The time is renewed for the text that is published. -/
theorem reflects_renew (now : Nat) {last : Success} (hl : past.getLast? = some last) :
    (s.renew now).Reflects (past ++ [⟨last.text, now, none⟩]) where
  lastSuccess := by simp [Snapshot.renew]
  rules := by simp [Snapshot.renew, h.rules, hl]
  began := by
    obtain ⟨first, hf, ht, hg⟩ := h.began last hl
    simp only [List.getLast?_concat, Option.mem_def, Option.some.injEq, forall_eq']
    exact ⟨first, List.mem_append_left _ hf, ht, hg⟩
  contentHash := by simpa [Snapshot.renew, hl] using h.contentHash
  generation := by simp [Snapshot.renew, h.generation]
  successes := by simp [Snapshot.renew, h.successes]

/-- Only the text of the last success is taken for published. -/
theorem exists_last_of_current {texts : List String} (hd : Distinguished texts)
    (hk : ∀ success ∈ past, success.text ∈ texts) {text : String} (ht : text ∈ texts)
    (hc : s.isCurrent (contentHash text) = true) :
    ∃ last, past.getLast? = some last ∧ last.text = text := by
  have hh : s.contentHash = contentHash text := decide_eq_true_iff.mp hc
  rcases h.contentHash with hn | ⟨last, hl, hn⟩
  · exact absurd (hh.symm.trans hn) (contentHash_ne_empty text)
  · exact ⟨last, hl, hd _ (hk last (List.mem_of_getLast? hl)) _ ht (hn.symm.trans hh)⟩

end Writers

/-! ## The worker and its history -/

namespace Worker

/-- The text that an action brings. -/
def Action.texts : Action → List String
  | .fetched answer => Answer.texts answer
  | _ => []

/-- What the history of a worker has to do with its snapshot and with the refresh in progress. -/
structure Faithful (w : Worker) (h : History) (texts : List String) : Prop where
  reflects : w.snapshot.Reflects h.successes
  known : ∀ success ∈ h.successes, success.text ∈ texts
  fetched : ∀ text, w.stage.text? = some text → h.fetched = some text ∧ text ∈ texts
  /-- What is about to be renewed is the time of the text that was fetched. -/
  renewing : ∀ asker, w.stage = .renewing asker →
    ∃ last, h.successes.getLast? = some last ∧ h.fetched = some last.text

theorem faithful_start (texts : List String) : Faithful (start .empty) .empty texts where
  reflects := reflects_empty
  known := by simp [History.empty]
  fetched := by simp [start, Stage.text?]
  renewing := by simp [start]

variable {w w' : Worker} {h : History} {texts : List String} {a : Action} {ms : List Mark}

/-- What leaves the snapshot alone, up to its hash, and the refresh in progress. -/
theorem Faithful.other (hf : Faithful w h texts) (hr : w'.snapshot.Reflects h.successes)
    (hs : w'.stage = w.stage) : Faithful w' h texts where
  reflects := hr
  known := hf.known
  fetched := by
    rw [hs]
    exact hf.fetched
  renewing := by
    rw [hs]
    exact hf.renewing

/-- What leaves the snapshot alone, with no refresh that has asked the source. -/
theorem Faithful.idle (hf : Faithful w h texts) (hr : w'.snapshot = w.snapshot)
    (ht : w'.stage.text? = none) (hn : ∀ asker, w'.stage ≠ .renewing asker) :
    Faithful w' h texts where
  reflects := by
    rw [hr]
    exact hf.reflects
  known := hf.known
  fetched := by simp [ht]
  renewing asker hs := absurd hs (hn asker)

/-- A refresh ends well. -/
theorem Faithful.finish (hf : Faithful w h texts) (success : Success) {s : Snapshot}
    (hk : success.text ∈ texts) (hr : s.Reflects (h.successes ++ [success])) (asker : Asker)
    (outcome : Except FetchError Outcome) :
    Faithful ({ w with snapshot := s }.conclude asker outcome) ⟨none, h.successes ++ [success]⟩
      texts where
  reflects := hr
  known := by
    rw [List.forall_mem_append, List.forall_mem_singleton]
    exact ⟨hf.known, hk⟩
  fetched := by simp [conclude, Stage.text?]
  renewing := by simp [conclude]

theorem faithful_step (hd : Distinguished texts) (ha : a.texts ⊆ texts) (hf : Faithful w h texts)
    (hs : Step w a ms w') : Faithful w' (h.enter w a) texts := by
  cases hs with
  | fetched asker bundle hw =>
    refine ⟨hf.reflects, hf.known, ?_, by simp⟩
    rintro text ⟨⟩
    exact ⟨rfl, ha (List.mem_singleton_self _)⟩
  | same asker text hw hc =>
    obtain ⟨hg, ht⟩ := hf.fetched text (by rw [hw]; rfl)
    obtain ⟨last, hl, rfl⟩ := exists_last_of_current hf.reflects hd hf.known ht hc
    exact ⟨hf.reflects, hf.known, by simp [Stage.text?], fun _ _ => ⟨last, hl, hg⟩⟩
  | differ asker text hw hc =>
    refine ⟨hf.reflects, hf.known, ?_, by simp⟩
    rintro _ ⟨⟩
    exact hf.fetched text (by rw [hw]; rfl)
  | renew asker now hw =>
    obtain ⟨last, hl, hg⟩ := hf.renewing asker hw
    have he : h.enter w (.finish now) = ⟨none, h.successes ++ [⟨last.text, now, none⟩]⟩ := by
      simp [History.enter, History.generation?, hg, hw]
    have hk := hf.known last (List.mem_of_getLast? hl)
    rw [he]
    exact hf.finish ⟨last.text, now, none⟩ hk (reflects_renew hf.reflects now hl) asker _
  | publish asker text now hw =>
    obtain ⟨hg, ht⟩ := hf.fetched text (by rw [hw]; rfl)
    have he : h.enter w (.finish now) =
        ⟨none, h.successes ++ [⟨text, now, some (w.snapshot.generation + 1)⟩]⟩ := by
      simp [History.enter, History.generation?, hg, hw]
    rw [he]
    exact hf.finish ⟨text, now, some (w.snapshot.generation + 1)⟩ ht
      (reflects_publish hf.reflects now text) asker _
  | forget ticket => exact hf.other (reflects_forget hf.reflects) rfl
  | take asker rest hw hp => exact hf.idle rfl rfl (by simp)
  | exit rest hw hp => exact hf.idle rfl rfl (by simp)
  | due hw => exact hf.idle rfl rfl (by simp)
  | fail asker e hw => exact hf.idle rfl rfl (by simp [conclude])
  | _ => exact hf.other hf.reflects rfl

theorem generation_step (hs : Step w a ms w') : w.snapshot.generation ≤ w'.snapshot.generation := by
  cases hs with
  | publish asker text now hw => exact Nat.le_succ _
  | _ => exact Nat.le_refl _

theorem successes_enter (h : History) (w : Worker) (a : Action) :
    h.successes <+: (h.enter w a).successes := by
  unfold History.enter
  split
  · exact List.prefix_rfl
  · split
    · exact List.prefix_append _ _
    · exact List.prefix_rfl
  · exact List.prefix_rfl

end Worker

/-! ## Looks and answers -/

/-- The text that a move brings. -/
def Move.texts : Move → List String
  | .act a => a.texts
  | _ => []

/-- The plain cache that holds the last of some successes. -/
def plainAfter (config : Config) (past : List Success) (now : Nat) : Plain :=
  ⟨config, true, past.getLast?.map fun last => (last.text, last.time), now⟩

/-- An evaluation that copied a whole snapshot answers what a plain cache does that holds the last
success before the look. -/
theorem verdict_of_reflects {s : Snapshot} {past : List Success} (h : s.Reflects past)
    (config : Config) (now : Nat) (subject : Policy.Subject) :
    s.copy.verdict config now subject = (plainAfter config past now).evaluate subject := by
  unfold Copy.verdict Snapshot.copy Plain.evaluate plainAfter Config.tolerance
  rw [h.rules, h.lastSuccess]
  cases past.getLast? with
  | none => rfl
  | some last =>
    rcases config.staleTolerance with - | - | tolerance <;> simp [Option.filter]

/-- What the readers of a cache have seen of it so far. -/
structure Readers.Informed (r : Readers) (texts : List String) : Prop where
  faithful : r.worker.Faithful r.history texts
  looked : ∀ sight ∈ r.sights,
    sight.snapshot.Reflects sight.past ∧ sight.past <+: r.history.successes
  ordered : (r.sights.map (·.snapshot.generation)).Pairwise (· ≤ ·)
  earlier : ∀ sight ∈ r.sights, sight.snapshot.generation ≤ r.worker.snapshot.generation
  waiting : ∀ entry ∈ r.waiting, entry.2 ∈ r.sights
  judged : ∀ j ∈ r.judgements, j.sight ∈ r.sights ∧
    j.verdict = (plainAfter r.config j.sight.past j.now).evaluate j.subject

namespace Readers

variable {r r' : Readers} {texts : List String}

theorem informed_start (config : Config) (texts : List String) :
    (start config).Informed texts := by
  refine ⟨Worker.faithful_start texts, ?_, ?_, ?_, ?_, ?_⟩ <;> simp [start]

/-- A look adds one sight, of the snapshot as it is. -/
theorem Informed.look (h : r.Informed texts) {waiting : List (Nat × Sight)}
    (hw : ∀ entry ∈ waiting, entry ∈ r.waiting ∨ entry.2 = r.sight) :
    { r with sights := r.sights ++ [r.sight], waiting }.Informed texts where
  faithful := h.faithful
  looked := by
    rw [List.forall_mem_append, List.forall_mem_singleton]
    exact ⟨h.looked, h.faithful.reflects, List.prefix_rfl⟩
  ordered := by
    rw [List.map_append, List.pairwise_append]
    refine ⟨h.ordered, List.pairwise_singleton _ _, ?_⟩
    intro generation hg _ hs
    obtain ⟨sight, hm, rfl⟩ := List.mem_map.mp hg
    obtain rfl := List.mem_singleton.mp hs
    exact h.earlier sight hm
  earlier := by
    rw [List.forall_mem_append, List.forall_mem_singleton]
    exact ⟨h.earlier, Nat.le_refl _⟩
  waiting entry he := by
    rcases hw entry he with hm | hs
    · exact List.mem_append_left _ (h.waiting entry hm)
    · rw [hs]
      exact List.mem_append_right _ (List.mem_singleton_self _)
  judged j hj := by
    obtain ⟨hs, hv⟩ := h.judged j hj
    exact ⟨List.mem_append_left _ hs, hv⟩

theorem mem_of_lookup {entries : List (Nat × Sight)} {ticket : Nat} {sight : Sight}
    (h : entries.lookup ticket = some sight) : (ticket, sight) ∈ entries := by
  obtain ⟨before, after, rfl, -⟩ := List.lookup_eq_some_iff.mp h
  simp

theorem informed_step (hd : Distinguished texts) {m : Move} (hm : m.texts ⊆ texts)
    (h : r.Informed texts) (hr : r.act? m = some r') : r'.Informed texts := by
  cases m with
  | act a =>
    obtain ⟨w, hw, rfl⟩ := Option.map_eq_some_iff.mp hr
    have hs := Worker.step_of_act hw
    have hp := Worker.successes_enter r.history r.worker a
    have hg := Worker.generation_step hs
    refine ⟨Worker.faithful_step hd hm h.faithful hs, ?_, h.ordered, ?_, h.waiting, h.judged⟩
    · intro sight hm
      obtain ⟨hr, hl⟩ := h.looked sight hm
      exact ⟨hr, hl.trans hp⟩
    · intro sight hm
      exact Nat.le_trans (h.earlier sight hm) hg
  | status =>
    obtain rfl := Option.some.inj hr
    exact h.look fun _ he => .inl he
  | look ticket =>
    obtain rfl := Option.some.inj hr
    refine h.look fun entry he => ?_
    rcases List.mem_cons.mp he with rfl | he
    · exact .inr rfl
    · exact .inl he
  | answer ticket now subject =>
    obtain ⟨sight, hl, rfl⟩ := Option.map_eq_some_iff.mp hr
    have hs := h.waiting _ (mem_of_lookup hl)
    refine ⟨h.faithful, h.looked, h.ordered, h.earlier, ?_, ?_⟩
    · intro entry he
      exact h.waiting entry (List.mem_filter.mp he).1
    · rw [List.forall_mem_append, List.forall_mem_singleton]
      exact ⟨h.judged, hs, verdict_of_reflects (h.looked sight hs).1 r.config now subject⟩

theorem informed_run (hd : Distinguished texts) {moves : List Move}
    (hm : ∀ m ∈ moves, m.texts ⊆ texts) (h : r.Informed texts) (hr : r.run? moves = some r') :
    r'.Informed texts := by
  induction moves generalizing r with
  | nil =>
    obtain rfl := Option.some.inj hr
    exact h
  | cons m rest ih =>
    rw [List.forall_mem_cons] at hm
    obtain ⟨v, hv, hr⟩ := Option.bind_eq_some_iff.mp hr
    exact ih hm.2 (informed_step hd hm.1 h hv) hr

/-- **Reads.** In any run of a worker with callers and readers, each look finds a snapshot that
reflects the successes up to then, with a time wherever there are rules, and later looks find no
earlier generation. An evaluation answers what a plain cache does that holds the last success
before its look, whatever has happened since. -/
theorem reads_run {config : Config} {moves : List Move} (hr : (start config).run? moves = some r)
    (hd : Distinguished (moves.flatMap Move.texts)) :
    (∀ sight ∈ r.sights, sight.snapshot.Reflects sight.past ∧ sight.past <+: r.history.successes ∧
        sight.snapshot.rules.isSome = sight.snapshot.lastSuccess.isSome) ∧
      (r.sights.map (·.snapshot.generation)).Pairwise (· ≤ ·) ∧
      ∀ j ∈ r.judgements, j.sight ∈ r.sights ∧
        j.verdict = (plainAfter r.config j.sight.past j.now).evaluate j.subject := by
  have hm : ∀ m ∈ moves, m.texts ⊆ moves.flatMap Move.texts :=
    fun m hm t ht => List.mem_flatMap.mpr ⟨m, hm, ht⟩
  have hi := informed_run hd hm (informed_start config _) hr
  refine ⟨?_, hi.ordered, hi.judged⟩
  intro sight hs
  obtain ⟨hf, hp⟩ := hi.looked sight hs
  refine ⟨hf, hp, ?_⟩
  rw [hf.rules, hf.lastSuccess, Option.isSome_map, Option.isSome_map]

/-! Three evaluations and two statuses. The first one looks before anything is published, and the
last one between the comparison and the renewal, after the content was forgotten. It answers when
other rules are published. -/

def someReads : List Move :=
  [.act .startDue, .act (.fetched noPostsAnswer), .look 1, .act .compare, .act (.finish 5), .look 2,
    .act .startDue, .act (.fetched noPostsAnswer), .act .compare, .act (.forget 0), .look 3,
    .act (.finish 9), .status, .act (.askAnew 0), .act .take, .act (.fetched (.ok (.ofText ""))),
    .act .compare, .act (.finish 12), .status, .answer 3 300004 [("method", .text "post")]]

theorem reads_someReads :
    Distinguished (someReads.flatMap Move.texts) ∧
      ∃ r, (start .default).run? someReads = some r ∧
        r.history.successes = [⟨noPostsText, 5, some 1⟩, ⟨noPostsText, 9, none⟩, ⟨"", 12, some 2⟩] ∧
        r.sights.map (fun sight => sight.past.length) = [0, 1, 1, 2, 3] ∧
        (r.sights.map (·.snapshot.generation)).Pairwise (· ≤ ·) ∧
        ∃ j ∈ r.judgements, j.verdict.decision = .deny := by
  have hd : Distinguished (someReads.flatMap Move.texts) := by
    unfold Distinguished
    decide +kernel
  have hs : ((start .default).run? someReads).map (fun r => (r.history.successes,
      r.sights.map fun sight => sight.past.length)) =
      some ([⟨noPostsText, 5, some 1⟩, ⟨noPostsText, 9, none⟩, ⟨"", 12, some 2⟩],
        [0, 1, 1, 2, 3]) := by
    decide +kernel
  have hp : ((start .default).run? someReads).map (fun r => (r.config,
      r.judgements.map fun j => j.sight.past)) =
      some (.default, [[⟨noPostsText, 5, some 1⟩]]) := by
    decide +kernel
  have hq : ((start .default).run? someReads).map (fun r =>
      r.judgements.map fun j => (j.now, j.subject)) =
      some [(300004, [("method", .text "post")])] := by
    decide +kernel
  obtain ⟨r, hr, hs⟩ := Option.map_eq_some_iff.mp hs
  rw [hr, Option.map_some, Option.some.injEq] at hp hq
  obtain ⟨hh, hl⟩ := Prod.mk.inj hs
  obtain ⟨hc, hp⟩ := Prod.mk.inj hp
  obtain ⟨j, hj, hp⟩ := List.map_eq_singleton_iff.mp hp
  rw [hj, List.map_singleton, List.singleton_inj] at hq
  obtain ⟨hn, hs⟩ := Prod.mk.inj hq
  obtain ⟨-, ho, ha⟩ := reads_run hr hd
  have hm : j ∈ r.judgements := by simp [hj]
  refine ⟨hd, r, hr, hh, hl, ho, j, hm, ?_⟩
  rw [(ha j hm).2, hc, hp, hn, hs]
  decide +kernel

end Readers

end PolicyGuard.Cache
