import PolicyGuard.Cache.Call
import PolicyGuard.Proofs.CacheRefinement
import PolicyGuard.Proofs.WorkerRuns

/-!
Caches that are stopped.

Without its worker a cache asks its source no more and publishes nothing. Only an invalidation
still leaves a trace, the empty hash, because it forgets before it looks for the worker; no
decision depends on the hash.

* `calls_of_stopped`: the calls to a cache that is stopped;
* `run_of_ended`: the actions beside a worker that has ended;
* `frozen_after_stop`: both, from any state that can be reached.
-/

namespace PolicyGuard.Cache

variable {c : Cache}

/-! ## A stop is for good -/

/-- The worker is gone, and was taken away. -/
structure IsStopped (c : Cache) : Prop where
  due : c.due = none
  isHeld : c.isHeld = false

theorem isStopped_stop (c : Cache) : c.stop.IsStopped :=
  ⟨rfl, rfl⟩

theorem IsStopped.refresh (h : c.IsStopped) (now : Nat) (answer : Answer) :
    (c.refresh now answer).2.IsStopped :=
  ⟨h.due, h.isHeld⟩

theorem IsStopped.forget (h : c.IsStopped) : c.forget.IsStopped := by
  unfold Cache.forget
  split
  · exact ⟨h.due, h.isHeld⟩
  · exact h

/-- A second stop finds nothing to do. -/
theorem IsStopped.stop_eq (h : c.IsStopped) : c.stop = c := by
  rw [stop, ← h.due, ← h.isHeld]

theorem IsStopped.apply {m : Moment} (h : m.cache.IsStopped) (o : Operation) :
    (m.apply o).cache.IsStopped := by
  cases o with
  | refresh answer =>
    by_cases hs : m.cache.hasSource <;> simpa [Moment.apply, refreshNow, h.due, hs] using h
  | invalidate answer =>
    have hf := h.forget
    by_cases hs : m.cache.hasSource <;>
      simpa [Moment.apply, invalidate, Cache.forget, h.due, hs] using hf
  | forget => exact h.forget
  | takeUp answer =>
    by_cases hs : m.cache.hasSource
    · simpa [Moment.apply, takeUp, hs] using h.refresh m.now answer
    · simpa [Moment.apply, takeUp, hs] using h
  | work answer =>
    by_cases hs : m.cache.hasSource
    · refine ⟨by simp [Moment.apply, work, hs, h.due], ?_⟩
      simpa [Moment.apply, work, Cache.refresh, hs] using h.isHeld
    · simpa [Moment.apply, work, hs] using h
  | stop => exact isStopped_stop m.cache
  | advance span => exact h

theorem IsStopped.run {m : Moment} (h : m.cache.IsStopped) (operations : List Operation) :
    (m.run operations).cache.IsStopped := by
  induction operations generalizing m with
  | nil => exact h
  | cons o rest ih => exact ih (h.apply o)

/-! ## Calls to a stopped cache -/

def Call.isInvalidate : Call → Bool
  | .invalidate _ => true
  | _ => false

/-- Whether an invalidation is among some calls. Without a source there is nothing to forget. -/
def isInvalidated (c : Cache) (calls : List (Nat × Call)) : Bool :=
  c.hasSource && calls.any fun p => p.2.isInvalidate

/-- What calls leave of a stopped cache. -/
def left (c : Cache) (calls : List (Nat × Call)) : Cache :=
  if calls.any fun p => p.2.isInvalidate then c.forget else c

/-- The reply of a stopped cache. -/
def stoppedReply (c : Cache) (now : Nat) : Call → Reply
  | .evaluate subject => .verdict (c.evaluate now subject)
  | .refreshNow _ => .refreshed (.error (if c.hasSource then .stopped else .noSource))
  | .invalidate _ => .done
  | .stop => .done
  | .status => .status c.snapshot.status

@[simp]
theorem due_forget (c : Cache) : c.forget.due = c.due := by
  unfold forget
  split <;> rfl

theorem forget_forget (c : Cache) : c.forget.forget = c.forget := by
  cases h : c.hasSource <;> simp [forget, h, Snapshot.forget]

/-- Decisions do not look at the hash. -/
theorem evaluate_forget (c : Cache) (now : Nat) (s : Policy.Subject) :
    c.forget.evaluate now s = c.evaluate now s := by
  unfold forget
  split <;> rfl

theorem call_of_stopped (h : c.IsStopped) (now : Nat) (call : Call) :
    c.call now call = (c.stoppedReply now call, if call.isInvalidate then c.forget else c) := by
  cases call with
  | evaluate subject => rfl
  | refreshNow answer =>
    cases hs : c.hasSource <;>
      simp [Cache.call, refreshNow, stoppedReply, Call.isInvalidate, h.due, hs]
  | invalidate answer =>
    cases hs : c.hasSource <;>
      simp [Cache.call, invalidate, stoppedReply, Call.isInvalidate, forget, h.due, hs]
  | stop =>
    simp [Cache.call, stopping, stoppedReply, Call.isInvalidate, h.isHeld, h.stop_eq]
  | status => rfl

theorem left_cons (c : Cache) (p : Nat × Call) (rest : List (Nat × Call)) :
    (if p.2.isInvalidate then c.forget else c).left rest = c.left (p :: rest) := by
  unfold left
  rw [List.any_cons]
  cases p.2.isInvalidate <;> cases rest.any fun p => p.2.isInvalidate <;> simp [forget_forget]

theorem calls_of_stopped (h : c.IsStopped) (calls : List (Nat × Call)) :
    (c.calls calls).2 = c.left calls ∧
      ∀ k now call, calls[k]? = some (now, call) →
        (c.calls calls).1[k]? = some ((c.left (calls.take k)).stoppedReply now call) := by
  induction calls generalizing c with
  | nil => simp [Cache.calls, left]
  | cons p rest ih =>
    have hd : (if p.2.isInvalidate then c.forget else c).IsStopped := by
      split
      · exact h.forget
      · exact h
    obtain ⟨hafter, hreplies⟩ := ih hd
    have hc : c.calls (p :: rest) =
        (c.stoppedReply p.1 p.2 ::
          ((if p.2.isInvalidate then c.forget else c).calls rest).1,
          ((if p.2.isInvalidate then c.forget else c).calls rest).2) := by
      rw [Cache.calls, call_of_stopped h]
    rw [hc]
    refine ⟨hafter.trans (left_cons c p rest), ?_⟩
    intro k now call hk
    cases k with
    | zero =>
      obtain rfl := Option.some.inj hk
      rfl
    | succ k =>
      rw [List.take_succ_cons, ← left_cons]
      exact hreplies k now call hk

theorem left_eq (c : Cache) (calls : List (Nat × Call)) :
    c.left calls = { c with snapshot := { c.snapshot with
      contentHash := if c.isInvalidated calls then "" else c.snapshot.contentHash } } := by
  by_cases hi : calls.any (fun p => p.2.isInvalidate) = true
  · rw [left, if_pos hi, isInvalidated, hi, Bool.and_true]
    by_cases hs : c.hasSource = true
    · rw [forget, if_pos hs, if_pos hs]
      rfl
    · rw [forget, if_neg hs, if_neg hs]
  · rw [left, if_neg hi, isInvalidated, Bool.eq_false_iff.mpr hi, Bool.and_false]
    rfl

theorem evaluate_left (c : Cache) (calls : List (Nat × Call)) (now : Nat) (s : Policy.Subject) :
    (c.left calls).evaluate now s = c.evaluate now s := by
  unfold left
  split
  · exact evaluate_forget c now s
  · rfl

/-! ## Actions beside a worker that has ended -/

namespace Worker

variable {v w w' : Worker} {t ms : List Mark} {a : Action}

def Action.isForget : Action → Bool
  | .forget _ => true
  | _ => false

/-- The worker has ended, and no caller reaches it or is about to stop it. -/
structure Ended (w : Worker) : Prop where
  stage : w.stage = .ended
  isReachable : w.isReachable = false
  stopsNext : w.stopsNext = false

/-- A worker ends with the command of the first stop, which has taken it away before. -/
theorem Queued.ended (h : Queued w t) (he : w.stage = .ended) : Ended w := by
  have hm : .stop ∈ w.sent := by
    rw [h.queue]
    exact List.mem_append_left _ (h.gone he)
  exact ⟨he, Bool.eq_false_iff.mpr fun hr => h.running (.inl hr) hm,
    Bool.eq_false_iff.mpr fun hr => h.running (.inr hr) hm⟩

theorem ended_step (h : Ended w) (hs : Step w a ms w') :
    Ended w' ∧ w'.snapshot = (if a.isForget then w.snapshot.forget else w.snapshot) ∧
      ∀ m ∈ ms, ∃ ticket, m = .refused ticket := by
  obtain ⟨he, hr, hn⟩ := h
  cases hs with
  | refuse ticket hc => exact ⟨⟨he, hr, hn⟩, rfl, by simp⟩
  | forget ticket => exact ⟨⟨he, hr, hn⟩, rfl, by simp⟩
  | leave ticket hc => exact ⟨⟨he, hr, hn⟩, rfl, by simp⟩
  | detachAgain hc => exact ⟨⟨he, hr, hn⟩, rfl, by simp⟩
  | _ => simp_all

/-- Beside a worker that has ended nothing happens but that hashes are forgotten and callers are
turned away. -/
theorem run_of_ended (h : Ended v) {actions : List Action} (hr : v.run? actions = some w) :
    Ended w ∧
      w.snapshot = { v.snapshot with
        contentHash := if actions.any Action.isForget then "" else v.snapshot.contentHash } ∧
      ∀ m ∈ v.trace actions, ∃ ticket, m = .refused ticket := by
  induction actions generalizing v with
  | nil =>
    obtain rfl := Option.some.inj hr
    exact ⟨h, rfl, by simp [trace]⟩
  | cons a rest ih =>
    obtain ⟨u, hu, hw, ht⟩ := run?_cons hr
    obtain ⟨he, hs, hm⟩ := ended_step h (step_of_act hu)
    obtain ⟨hew, hsw, hmw⟩ := ih he hw
    refine ⟨hew, ?_, ?_⟩
    · rw [hsw, hs, List.any_cons]
      cases a.isForget <;> simp [Snapshot.forget]
    · rw [ht]
      intro m hmem
      exact (List.mem_append.mp hmem).elim (hm m) (hmw m)

end Worker

/-! ## Any state that can be reached -/

/-- Stopped is stopped. From any history with a stop, whatever the worker still did after it,
calls change no more of a cache than that an invalidation empties the hash; so they decide as at
the stop, and no refresh is done. The same holds of actions that interleave in any way, once the
worker has ended. -/
theorem frozen_after_stop :
    (∀ (m : Moment) (late : List Operation) (calls : List (Nat × Call)),
      let c := ((m.apply .stop).run late).cache
      let after := c.calls calls
      let hash (calls : List (Nat × Call)) :=
        if c.isInvalidated calls then "" else c.snapshot.contentHash
      after.2 = { c with snapshot := { c.snapshot with contentHash := hash calls } } ∧
      (∀ now subject, after.2.evaluate now subject = c.evaluate now subject) ∧
      ∀ (k now : Nat) (call : Call), calls[k]? = some (now, call) →
        after.1[k]? = some (match call with
          | .evaluate subject => .verdict (c.evaluate now subject)
          | .refreshNow _ => .refreshed (.error (if c.hasSource then .stopped else .noSource))
          | .invalidate _ => .done
          | .stop => .done
          | .status => .status { c.snapshot.status with contentHash := hash (calls.take k) })) ∧
    ∀ (s : Snapshot) (before after : List Worker.Action) (v w : Worker),
      (Worker.start s).run? before = some v → v.stage = .ended → v.run? after = some w →
        w.snapshot = { v.snapshot with
          contentHash := if after.any Worker.Action.isForget then "" else v.snapshot.contentHash } ∧
        w.stage = .ended ∧ ∀ m ∈ v.trace after, ∃ ticket, m = .refused ticket := by
  constructor
  · intro m late calls c after hash
    have hd : c.IsStopped := (isStopped_stop m.cache).run late
    obtain ⟨hafter, hreplies⟩ := calls_of_stopped hd calls
    refine ⟨hafter.trans (left_eq c calls), ?_, ?_⟩
    · intro now subject
      rw [hafter, evaluate_left]
    · intro k now call hk
      rw [hreplies k now call hk]
      cases call with
      | evaluate subject => simp only [stoppedReply, evaluate_left]
      | refreshNow answer => simp only [stoppedReply, left_eq]
      | invalidate answer => rfl
      | stop => rfl
      | status =>
        simp only [stoppedReply, left_eq]
        rfl
  · intro s before after v w hv he hw
    have hq := (Worker.kept_run hv).queued
    obtain ⟨hended, hs, hm⟩ := Worker.run_of_ended (hq.ended he) hw
    exact ⟨hs, hended.stage, hm⟩

/-! A cache that was stopped with a policy against posts, and a worker that ended with it. -/

def stoppedCache : Cache :=
  (Moment.apply ⟨.start .default none 0 noPostsAnswer, 0⟩ .stop).cache

def lastCalls : List (Nat × Call) :=
  [(1, .invalidate noPostsAnswer), (2, .refreshNow noPostsAnswer), (3, .status)]

def endedWorker : Worker :=
  { Worker.start (Snapshot.empty.publish 0 noPostsText) with
    isReachable := false
    stage := .ended
    sent := [.stop]
    taken := [.stop] }

theorem frozen_noPosts :
    (stoppedCache.calls lastCalls).1[1]? = some (.refreshed (.error .stopped)) ∧
      ((stoppedCache.calls lastCalls).2.evaluate 4 [("method", .text "post")]).decision = .deny ∧
      ∃ w, endedWorker.run? [.ask 1, .forget 2, .askAnew 2, .detach] = some w ∧
        w.snapshot = { endedWorker.snapshot with contentHash := "" } := by
  obtain ⟨hcalls, hruns⟩ := frozen_after_stop
  obtain ⟨-, hdecisions, hreplies⟩ :=
    hcalls ⟨.start .default none 0 noPostsAnswer, 0⟩ [] lastCalls
  refine ⟨hreplies 1 2 (.refreshNow noPostsAnswer) rfl, ?_, ?_⟩
  · have hd := hdecisions 4 [("method", .text "post")]
    exact (congrArg Policy.Verdict.decision hd).trans (by decide +kernel)
  · obtain ⟨hs, -⟩ := hruns (Snapshot.empty.publish 0 noPostsText) [.detach, .sendStop, .take]
      [.ask 1, .forget 2, .askAnew 2, .detach] endedWorker _ rfl rfl rfl
    exact ⟨_, rfl, hs⟩

/-- The hash is not frozen: an invalidation empties it though no worker is there. -/
theorem forgotten_noPosts :
    (stoppedCache.calls [(1, .invalidate noPostsAnswer)]).2.snapshot.contentHash ≠
      stoppedCache.snapshot.contentHash := by
  have hc : Snapshot.empty.isCurrent (contentHash (Bundle.ofText noPostsText).combined) = false :=
    decide_eq_false (contentHash_ne_empty _).symm
  have hs : stoppedCache.snapshot =
      Snapshot.empty.publish 0 (Bundle.ofText noPostsText).combined := by
    simp [stoppedCache, Moment.apply, stop, start, refresh, Snapshot.refresh, noPostsAnswer, hc]
  have hf : (stoppedCache.calls [(1, .invalidate noPostsAnswer)]).2.snapshot =
      stoppedCache.snapshot.forget := rfl
  rw [hf, hs]
  exact (contentHash_ne_empty _).symm

end PolicyGuard.Cache
