import PolicyGuard.Cache.Trace

/-!
Runs of the refresh worker and its callers, however their actions interleave.

`Step` says once what an action does. From it come four invariants, each kept by a
step and so by a run (`kept_run`): of the queue (`Queued`), of the order in which
refreshes begin (`InOrder`), of refreshes that do not overlap (`Exclusive`) and of
replies.
-/

namespace PolicyGuard.Cache.Worker

/-! ## Steps -/

/-- What an action does and what is seen of it. -/
inductive Step (w : Worker) : Action → List Mark → Worker → Prop
  | ask (ticket : Nat) (ho : w.isReachable = true) :
      Step w (.ask ticket) [.sent (.refresh (.caller ticket))]
        (w.send (.refresh (.caller ticket)))
  | refuse (ticket : Nat) (hc : w.isReachable = false) :
      Step w (.ask ticket) [.refused ticket] { w with replies := w.replies ++ [(ticket, .stopped)] }
  | forget (ticket : Nat) :
      Step w (.forget ticket) [] { w with snapshot := w.snapshot.forget }
  | askAnew (ticket : Nat) (ho : w.isReachable = true) :
      Step w (.askAnew ticket) [.sent (.refresh (.invalidation ticket))]
        (w.send (.refresh (.invalidation ticket)))
  | leave (ticket : Nat) (hc : w.isReachable = false) : Step w (.askAnew ticket) [] w
  | detach (ho : w.isReachable = true) :
      Step w .detach [] { w with isReachable := false, stopsNext := true }
  | detachAgain (hc : w.isReachable = false) : Step w .detach [] w
  | sendStop (hs : w.stopsNext = true) :
      Step w .sendStop [.sent .stop] ({ w with stopsNext := false }.send .stop)
  | take (asker : Asker) (rest : List Command) (hs : w.stage = .waiting)
      (hp : w.pending = .refresh asker :: rest) :
      Step w .take [.began asker]
        { w with pending := rest, taken := w.taken ++ [.refresh asker], stage := .fetching asker }
  | exit (rest : List Command) (hs : w.stage = .waiting) (hp : w.pending = .stop :: rest) :
      Step w .take [] { w with pending := rest, taken := w.taken ++ [.stop], stage := .ended }
  | due (hs : w.stage = .waiting) :
      Step w .startDue [.began .schedule] { w with stage := .fetching .schedule }
  | fetched (asker : Asker) (bundle : Bundle) (hs : w.stage = .fetching asker) :
      Step w (.fetched (.ok bundle)) [.got (.ok bundle)]
        { w with stage := .comparing asker bundle.combined }
  | fail (asker : Asker) (e : FetchError) (hs : w.stage = .fetching asker) :
      Step w (.fetched (.error e)) [.got (.error e), .ended asker (.error e)]
        (w.conclude asker (.error e))
  | same (asker : Asker) (text : String) (hs : w.stage = .comparing asker text)
      (hc : w.snapshot.isCurrent (contentHash text) = true) :
      Step w .compare [] { w with stage := .renewing asker }
  | differ (asker : Asker) (text : String) (hs : w.stage = .comparing asker text)
      (hc : w.snapshot.isCurrent (contentHash text) = false) :
      Step w .compare [] { w with stage := .publishing asker text }
  | renew (asker : Asker) (now : Nat) (hs : w.stage = .renewing asker) :
      Step w (.finish now) [.ended asker (.ok .unchanged)]
        ({ w with snapshot := w.snapshot.renew now }.conclude asker (.ok .unchanged))
  | publish (asker : Asker) (text : String) (now : Nat) (hs : w.stage = .publishing asker text) :
      Step w (.finish now) [.ended asker (.ok (.published (Policy.read text).length))]
        ({ w with snapshot := w.snapshot.publish now text }.conclude asker
          (.ok (.published (Policy.read text).length)))

variable {w w' : Worker}

theorem step_take (h : w.take? = some w') : Step w .take (w.marks .take) w' := by
  unfold take? at h
  split at h
  · rename_i c rest hs hp
    cases c with
    | refresh asker =>
      obtain rfl := Option.some.inj h
      simpa only [marks, hp] using Step.take asker rest hs hp
    | stop =>
      obtain rfl := Option.some.inj h
      simpa only [marks, hp] using Step.exit rest hs hp
  · cases h

theorem step_fetched {answer : Answer} (h : w.fetched? answer = some w') :
    Step w (.fetched answer) (w.marks (.fetched answer)) w' := by
  unfold fetched? at h
  split at h
  · rename_i asker bundle hs
    obtain rfl := Option.some.inj h
    simpa only [marks, hs] using Step.fetched asker bundle hs
  · rename_i asker e hs
    obtain rfl := Option.some.inj h
    simpa only [marks, hs] using Step.fail asker e hs
  · cases h

theorem step_compare (h : w.compare? = some w') : Step w .compare (w.marks .compare) w' := by
  unfold compare? at h
  split at h
  · rename_i asker text hs
    obtain rfl := Option.some.inj h
    cases hc : w.snapshot.isCurrent (contentHash text) with
    | true => simpa [marks] using Step.same asker text hs hc
    | false => simpa [marks] using Step.differ asker text hs hc
  · cases h

theorem step_finish {now : Nat} (h : w.finish? now = some w') :
    Step w (.finish now) (w.marks (.finish now)) w' := by
  unfold finish? at h
  split at h
  · rename_i asker hs
    obtain rfl := Option.some.inj h
    simpa only [marks, hs] using Step.renew asker now hs
  · rename_i asker text hs
    obtain rfl := Option.some.inj h
    simpa only [marks, hs] using Step.publish asker text now hs
  · cases h

theorem step_of_act {a : Action} (h : w.act? a = some w') : Step w a (w.marks a) w' := by
  cases a with
  | ask ticket =>
    obtain rfl := Option.some.inj h
    cases ho : w.isReachable with
    | true => simpa [marks, ho] using Step.ask ticket ho
    | false => simpa [marks, ho] using Step.refuse ticket ho
  | forget ticket =>
    obtain rfl := Option.some.inj h
    exact Step.forget ticket
  | askAnew ticket =>
    obtain rfl := Option.some.inj h
    cases ho : w.isReachable with
    | true => simpa [marks, ho] using Step.askAnew ticket ho
    | false => simpa [marks, ho] using Step.leave ticket ho
  | detach =>
    obtain rfl := Option.some.inj h
    cases ho : w.isReachable with
    | true => simpa [marks] using Step.detach ho
    | false => simpa [marks] using Step.detachAgain ho
  | sendStop =>
    rw [act?] at h
    split at h
    · rename_i hs
      obtain rfl := Option.some.inj h
      exact Step.sendStop hs
    · cases h
  | take => exact step_take h
  | startDue =>
    rw [act?] at h
    split at h
    · rename_i hs
      obtain rfl := Option.some.inj h
      exact Step.due hs
    · cases h
  | fetched answer => exact step_fetched h
  | compare => exact step_compare h
  | finish now => exact step_finish h

/-! ## Runs -/

theorem run?_cons {a : Action} {rest : List Action} (h : w.run? (a :: rest) = some w') :
    ∃ v, w.act? a = some v ∧ v.run? rest = some w' ∧
      w.trace (a :: rest) = w.marks a ++ v.trace rest := by
  rw [run?] at h
  obtain ⟨v, hv, hr⟩ := Option.bind_eq_some_iff.mp h
  exact ⟨v, hv, hr, by rw [trace, hv]⟩

theorem run?_append {before after : List Action} (h : w.run? (before ++ after) = some w') :
    ∃ v, w.run? before = some v ∧ v.run? after = some w' ∧
      w.trace (before ++ after) = w.trace before ++ v.trace after := by
  induction before generalizing w with
  | nil => exact ⟨w, rfl, h, rfl⟩
  | cons a rest ih =>
    rw [List.cons_append] at h ⊢
    obtain ⟨u, hu, hr, ht⟩ := run?_cons h
    obtain ⟨v, hv, hw, hs⟩ := ih hr
    refine ⟨v, by rw [run?, hu]; exact hv, hw, ?_⟩
    rw [ht, hs, trace, hu, List.append_assoc]

/-- What each step keeps, a run keeps. -/
theorem run_induction {P : Worker → List Mark → Prop}
    (hk : ∀ {w t a ms w'}, P w t → Step w a ms w' → P w' (t ++ ms)) {t : List Mark}
    {actions : List Action} (h : P w t) (hr : w.run? actions = some w') :
    P w' (t ++ w.trace actions) := by
  induction actions generalizing w t with
  | nil =>
    obtain rfl := Option.some.inj hr
    simpa only [trace, List.append_nil] using h
  | cons a rest ih =>
    obtain ⟨v, hv, hw, ht⟩ := run?_cons hr
    have hs := ih (hk h (step_of_act hv)) hw
    rwa [ht, ← List.append_assoc]

/-- What no step of the actions shows, their trace does not show. -/
theorem not_mem_trace {m : Mark} {actions : List Action} (hr : w.run? actions = some w')
    (hm : ∀ a ∈ actions, ∀ v ms v', Step v a ms v' → m ∉ ms) : m ∉ w.trace actions := by
  induction actions generalizing w with
  | nil => simp [trace]
  | cons a rest ih =>
    rw [List.forall_mem_cons] at hm
    obtain ⟨v, hv, hw, ht⟩ := run?_cons hr
    rw [ht, List.mem_append, not_or]
    exact ⟨hm.1 _ _ _ (step_of_act hv), ih hw hm.2⟩

/-- The actions of a refresh by their answer. -/
def refreshing (now : Nat) : Answer → List Action
  | .ok bundle => [.fetched (.ok bundle), .compare, .finish now]
  | .error e => [.fetched (.error e)]

/-- A refresh with nothing in between is the one of the snapshot. -/
theorem run?_refreshing {asker : Asker} (hs : w.stage = .fetching asker) (now : Nat)
    (answer : Answer) :
    let refreshed := w.snapshot.refresh now answer
    w.run? (refreshing now answer) =
      some ({ w with snapshot := refreshed.2 }.conclude asker refreshed.1) := by
  cases answer with
  | error e => simp [refreshing, run?, act?, fetched?, conclude, hs, Snapshot.refresh]
  | ok bundle =>
    by_cases hc : w.snapshot.isCurrent (contentHash bundle.combined) = true <;>
      simp [refreshing, run?, act?, fetched?, compare?, finish?, conclude, hs, hc, Snapshot.refresh]

/-! ## The queue -/

/-- Only the last command can be a stop, and nothing is left once it is taken. -/
structure Queued (w : Worker) (t : List Mark) : Prop where
  sent : t.filterMap Mark.sent? = w.sent
  queue : w.sent = w.taken ++ w.pending
  apart : w.isReachable = true → w.stopsNext = false
  running : w.isReachable = true ∨ w.stopsNext = true → .stop ∉ w.sent
  last : .stop ∉ w.sent.dropLast
  gone : w.stage = .ended → .stop ∈ w.taken
  ordered : .refresh .schedule ∉ w.sent

theorem queued_start (s : Snapshot) : Queued (start s) [] := by
  constructor <;> simp [start]

variable {t ms : List Mark} {a : Action}

theorem Queued.send (h : Queued w t) {asker : Asker} (ho : w.isReachable = true)
    (ha : asker ≠ .schedule) :
    Queued (w.send (.refresh asker)) (t ++ [.sent (.refresh asker)]) where
  sent := by simp [Worker.send, Mark.sent?, h.sent]
  queue := by simp [Worker.send, h.queue]
  apart := h.apart
  running hr := by
    have := h.running hr
    simpa [Worker.send] using this
  last := by
    have := h.running (.inl ho)
    simpa [Worker.send] using this
  gone := h.gone
  ordered := by
    have := h.ordered
    simp only [Worker.send, List.mem_append, List.mem_singleton, Command.refresh.injEq, not_or]
    exact ⟨this, Ne.symm ha⟩

theorem Queued.stop (h : Queued w t) (hs : w.stopsNext = true) :
    Queued ({ w with stopsNext := false }.send .stop) (t ++ [.sent .stop]) where
  sent := by simp [Worker.send, Mark.sent?, h.sent]
  queue := by simp [Worker.send, h.queue]
  apart _ := rfl
  running hr := by
    rcases hr with hr | hr
    · have hf := h.apart hr
      rw [hs] at hf
      cases hf
    · cases hr
  last := by
    have := h.running (.inr hs)
    simpa [Worker.send] using this
  gone := h.gone
  ordered := by
    have := h.ordered
    simpa [Worker.send] using this

theorem Queued.take (h : Queued w t) {c : Command} {rest : List Command} {stage : Stage}
    (hp : w.pending = c :: rest) (hs : stage = .ended → c = .stop)
    (hm : ms.filterMap Mark.sent? = []) :
    Queued { w with pending := rest, taken := w.taken ++ [c], stage } (t ++ ms) where
  sent := by rw [List.filterMap_append, hm, List.append_nil, h.sent]
  queue := by rw [h.queue, hp, List.append_assoc, List.singleton_append]
  apart := h.apart
  running := h.running
  last := h.last
  gone he := by
    rw [hs he]
    exact List.mem_append_right _ (List.mem_singleton_self _)
  ordered := h.ordered

/-- What leaves the commands alone. -/
theorem Queued.other (h : Queued w t) (hs : w'.sent = w.sent) (ht : w'.taken = w.taken)
    (hp : w'.pending = w.pending) (hr : w'.isReachable = w.isReachable)
    (hn : w'.stopsNext = w.stopsNext) (he : w'.stage = .ended → w.stage = .ended)
    (hm : ms.filterMap Mark.sent? = []) : Queued w' (t ++ ms) where
  sent := by rw [List.filterMap_append, hm, List.append_nil, h.sent, hs]
  queue := by rw [hs, ht, hp, h.queue]
  apart := by
    rw [hr, hn]
    exact h.apart
  running := by
    rw [hr, hn, hs]
    exact h.running
  last := by
    rw [hs]
    exact h.last
  gone hg := by
    rw [ht]
    exact h.gone (he hg)
  ordered := by
    rw [hs]
    exact h.ordered

theorem queued_step (h : Queued w t) (hs : Step w a ms w') : Queued w' (t ++ ms) := by
  cases hs with
  | ask ticket ho => exact h.send ho (by simp)
  | askAnew ticket ho => exact h.send ho (by simp)
  | sendStop hn => exact h.stop hn
  | take asker rest hw hp => exact h.take hp (by simp) rfl
  | exit rest hw hp => exact h.take hp (by simp) rfl
  | detach ho =>
    rw [List.append_nil]
    refine ⟨h.sent, h.queue, ?_, ?_, h.last, h.gone, h.ordered⟩
    · intro hf
      cases hf
    · intro _
      exact h.running (.inl ho)
  | _ => exact h.other rfl rfl rfl rfl rfl (by simp [conclude]) rfl

theorem Queued.pending_eq_nil (h : Queued w t) (he : w.stage = .ended) : w.pending = [] := by
  rcases List.eq_nil_or_concat w.pending with hp | ⟨rest, c, hp⟩
  · exact hp
  · have hl := h.last
    rw [h.queue, hp, List.concat_eq_append, ← List.append_assoc, List.dropLast_concat] at hl
    exact absurd (List.mem_append_left _ (h.gone he)) hl

/-! ## The order of refreshes -/

/-- Whom the refreshes are for that began on command. -/
def onCommand (t : List Mark) : List Asker :=
  (t.filterMap Mark.began?).filter (· ≠ .schedule)

/-- Refreshes begin in the order of their commands. -/
def InOrder (w : Worker) (t : List Mark) : Prop :=
  onCommand t = w.taken.filterMap Command.asker?

theorem onCommand_append (t u : List Mark) : onCommand (t ++ u) = onCommand t ++ onCommand u := by
  simp only [onCommand, List.filterMap_append, List.filter_append]

theorem inOrder_step (hq : Queued w t) (h : InOrder w t) (hs : Step w a ms w') :
    InOrder w' (t ++ ms) := by
  have hother : ∀ {w' ms}, w'.taken = w.taken → onCommand ms = [] → InOrder w' (t ++ ms) := by
    intro w' ms ht hm
    rw [InOrder, onCommand_append, hm, List.append_nil, ht]
    exact h
  cases hs with
  | take asker rest hw hp =>
    -- the schedule sends no commands, so this one counts among those on command
    have hn : asker ≠ .schedule := by
      rintro rfl
      have ho := hq.ordered
      rw [hq.queue, hp] at ho
      exact ho (by simp)
    show onCommand (t ++ _) = (w.taken ++ _).filterMap _
    rw [onCommand_append, List.filterMap_append, show onCommand t = _ from h]
    simp [onCommand, Mark.began?, Command.asker?, hn]
  | exit rest hw hp =>
    show onCommand (t ++ _) = (w.taken ++ _).filterMap _
    rw [List.append_nil, List.filterMap_append, show onCommand t = _ from h]
    simp [Command.asker?]
  | _ => exact hother rfl rfl

/-! ## Refreshes one after the other -/

/-- The marks of the refresh in progress. -/
def Stage.Shows : Stage → List Mark → Prop
  | .waiting, ms | .ended, ms => ms = []
  | .fetching asker, ms => ms = [.began asker]
  | .comparing asker text, ms | .publishing asker text, ms =>
    ∃ bundle : Bundle, bundle.combined = text ∧ ms = [.began asker, .got (.ok bundle)]
  | .renewing asker, ms => ∃ bundle : Bundle, ms = [.began asker, .got (.ok bundle)]

theorem Stage.Shows.mem {stage : Stage} (h : stage.Shows ms) {m : Mark} (hm : m ∈ ms) :
    (∃ asker, m = .began asker) ∨ ∃ answer, m = .got answer := by
  cases stage with
  | waiting | ended =>
    obtain rfl : ms = [] := h
    cases hm
  | fetching asker =>
    obtain rfl : ms = _ := h
    exact .inl ⟨asker, List.mem_singleton.mp hm⟩
  | comparing asker text | publishing asker text =>
    obtain ⟨bundle, -, rfl⟩ := h
    simp at hm
    exact hm.imp (⟨_, ·⟩) (⟨_, ·⟩)
  | renewing asker =>
    obtain ⟨bundle, rfl⟩ := h
    simp at hm
    exact hm.imp (⟨_, ·⟩) (⟨_, ·⟩)

/-- A refresh begins only after the one before it has ended. -/
def InTurn (stage : Stage) (t : List Mark) (refreshes : List Refresh) : Prop :=
  ∃ current, t.filter Mark.isOfRefresh = refreshes.flatMap Refresh.marks ++ current ∧
    stage.Shows current

/-- Refreshes in turn, with outcomes that fit. -/
def Exclusive (w : Worker) (t : List Mark) : Prop :=
  ∃ refreshes, InTurn w.stage t refreshes ∧ ∀ r ∈ refreshes, r.Fits

theorem Exclusive.goOn (h : Exclusive w t)
    (hs : ∀ current, w.stage.Shows current →
      w'.stage.Shows (current ++ ms.filter Mark.isOfRefresh)) : Exclusive w' (t ++ ms) := by
  obtain ⟨refreshes, ⟨current, ht, hc⟩, hf⟩ := h
  refine ⟨refreshes, ⟨current ++ ms.filter Mark.isOfRefresh, ?_, hs current hc⟩, hf⟩
  rw [List.filter_append, ht, List.append_assoc]

theorem Exclusive.other (h : Exclusive w t) (hw : w'.stage = w.stage)
    (hm : ms.filter Mark.isOfRefresh = []) : Exclusive w' (t ++ ms) := by
  apply h.goOn
  intro current hc
  rw [hm, List.append_nil, hw]
  exact hc

theorem Exclusive.conclude (h : Exclusive w t) (hw : w'.stage = .waiting)
    (hs : ∀ current, w.stage.Shows current →
      ∃ r : Refresh, r.Fits ∧ current ++ ms.filter Mark.isOfRefresh = r.marks) :
    Exclusive w' (t ++ ms) := by
  obtain ⟨refreshes, ⟨current, ht, hc⟩, hf⟩ := h
  obtain ⟨r, hr, hm⟩ := hs current hc
  refine ⟨refreshes ++ [r], ⟨[], ?_, by rw [hw]; rfl⟩, ?_⟩
  · rw [List.filter_append, ht, List.append_assoc, hm, List.flatMap_append,
      List.flatMap_singleton, List.append_nil]
  · rw [List.forall_mem_append, List.forall_mem_singleton]
    exact ⟨hf, hr⟩

theorem exclusive_step (h : Exclusive w t) (hs : Step w a ms w') : Exclusive w' (t ++ ms) := by
  cases hs with
  | take asker rest hw hp =>
    apply h.goOn
    rw [hw]
    rintro _ rfl
    rfl
  | exit rest hw hp =>
    apply h.goOn
    rw [hw]
    rintro _ rfl
    rfl
  | due hw =>
    apply h.goOn
    rw [hw]
    rintro _ rfl
    rfl
  | fetched asker bundle hw =>
    apply h.goOn
    rw [hw]
    rintro _ rfl
    exact ⟨bundle, rfl, rfl⟩
  | same asker text hw hc =>
    apply h.goOn
    rw [hw]
    rintro _ ⟨bundle, -, rfl⟩
    exact ⟨bundle, rfl⟩
  | differ asker text hw hc =>
    apply h.goOn
    rw [hw]
    rintro _ ⟨bundle, ht, rfl⟩
    exact ⟨bundle, ht, rfl⟩
  | fail asker e hw =>
    apply h.conclude rfl
    rw [hw]
    rintro _ rfl
    exact ⟨⟨asker, .error e, .error e⟩, rfl, rfl⟩
  | renew asker now hw =>
    apply h.conclude rfl
    rw [hw]
    rintro _ ⟨bundle, rfl⟩
    exact ⟨⟨asker, .ok bundle, .ok .unchanged⟩, .inl rfl, rfl⟩
  | publish asker text now hw =>
    apply h.conclude rfl
    rw [hw]
    rintro _ ⟨bundle, rfl, rfl⟩
    exact ⟨⟨asker, .ok bundle, _⟩, .inr rfl, rfl⟩
  | _ => exact h.other rfl rfl

/-! ## Replies -/

theorem replies_step (h : w.replies = t.filterMap Mark.reply?) (hs : Step w a ms w') :
    w'.replies = (t ++ ms).filterMap Mark.reply? := by
  have hend : ∀ (v : Worker) asker outcome, v.replies = w.replies →
      (v.conclude asker outcome).replies = w.replies ++ [.ended asker outcome].filterMap Mark.reply? := by
    intro v asker outcome hv
    cases asker <;> simp [Worker.conclude, Mark.reply?, hv]
  rw [List.filterMap_append, ← h]
  cases hs with
  | fail asker e hw => exact hend _ asker (.error e) rfl
  | renew asker now hw => exact hend _ asker _ rfl
  | publish asker text now hw => exact hend _ asker _ rfl
  | refuse ticket hc => rfl
  | _ => exact (List.append_nil _).symm

/-! ## What every moment of a run keeps -/

structure Kept (w : Worker) (t : List Mark) : Prop where
  queued : Queued w t
  inOrder : InOrder w t
  exclusive : Exclusive w t
  replies : w.replies = t.filterMap Mark.reply?

theorem kept_start (s : Snapshot) : Kept (start s) [] :=
  ⟨queued_start s, rfl, ⟨[], ⟨[], rfl, rfl⟩, by simp⟩, rfl⟩

theorem kept_step (h : Kept w t) (hs : Step w a ms w') : Kept w' (t ++ ms) :=
  ⟨queued_step h.queued hs, inOrder_step h.queued h.inOrder hs, exclusive_step h.exclusive hs,
    replies_step h.replies hs⟩

theorem kept_run {s : Snapshot} {actions : List Action} (hr : (start s).run? actions = some w) :
    Kept w ((start s).trace actions) :=
  run_induction (P := Kept) kept_step (kept_start s) hr

/-- Whom the refreshes are for that were ordered. -/
def askers (t : List Mark) : List Asker :=
  (t.filterMap Mark.sent?).filterMap Command.asker?

theorem Kept.onCommand_prefix (h : Kept w t) : onCommand t <+: askers t := by
  rw [askers, h.queued.sent, h.queued.queue, List.filterMap_append, ← h.inOrder]
  exact List.prefix_append _ _

theorem mem_askers {asker : Asker} (h : asker ∈ askers t) : .sent (.refresh asker) ∈ t := by
  obtain ⟨c, hc, ha⟩ := List.mem_filterMap.mp h
  obtain ⟨m, hm, hs⟩ := List.mem_filterMap.mp hc
  cases m with
  | sent c' =>
    obtain rfl := Option.some.inj hs
    cases c' with
    | refresh asker' =>
      obtain rfl := Option.some.inj ha
      exact hm
    | stop => cases ha
  | _ => cases hs

theorem mem_onCommand {asker : Asker} (h : .began asker ∈ t) (hn : asker ≠ .schedule) :
    asker ∈ onCommand t :=
  List.mem_filter.mpr ⟨List.mem_filterMap.mpr ⟨_, h, rfl⟩, by simpa using hn⟩

/-- Only what is ordered begins. -/
theorem Kept.not_began (h : Kept w t) {asker : Asker} (ha : asker ≠ .schedule)
    (hn : .sent (.refresh asker) ∉ t) : .began asker ∉ t := by
  intro hb
  exact hn (mem_askers (h.onCommand_prefix.subset (mem_onCommand hb ha)))

/-- What refreshes in turn show of one kind. -/
theorem InTurn.filterMap_eq {β : Type} {stage : Stage} {refreshes : List Refresh}
    (h : InTurn stage t refreshes) {f : Mark → Option β}
    (hf : ∀ m ∈ t, m.isOfRefresh = false → f m = none) :
    ∃ current, stage.Shows current ∧
      t.filterMap f = refreshes.flatMap (fun r => r.marks.filterMap f) ++ current.filterMap f := by
  obtain ⟨current, ht, hc⟩ := h
  have hm : t.filterMap f = (t.filter Mark.isOfRefresh).filterMap f := by
    clear ht
    induction t with
    | nil => rfl
    | cons m rest ih =>
      rw [List.forall_mem_cons] at hf
      cases hr : m.isOfRefresh with
      | true => rw [List.filter_cons_of_pos hr, List.filterMap_cons, List.filterMap_cons, ih hf.2]
      | false =>
        rw [List.filter_cons_of_neg (by simp [hr]), List.filterMap_cons_none (hf.1 hr), ih hf.2]
  exact ⟨current, hc, by rw [hm, ht, List.filterMap_append, List.filterMap_flatMap]⟩

theorem InTurn.began {stage : Stage} {refreshes : List Refresh} (h : InTurn stage t refreshes) :
    t.filterMap Mark.began? = refreshes.map Refresh.asker ++ stage.asker?.toList := by
  obtain ⟨current, hc, ht⟩ := h.filterMap_eq (f := Mark.began?) (by
    intro m _ hm
    cases m <;> first | rfl | cases hm)
  have hs : current.filterMap Mark.began? = stage.asker?.toList := by
    cases stage with
    | waiting | ended =>
      obtain rfl : current = [] := hc
      rfl
    | fetching asker =>
      obtain rfl : current = _ := hc
      rfl
    | comparing asker text | publishing asker text =>
      obtain ⟨bundle, -, rfl⟩ := hc
      rfl
    | renewing asker =>
      obtain ⟨bundle, rfl⟩ := hc
      rfl
  rw [ht, hs, List.map_eq_flatMap]
  rfl

end PolicyGuard.Cache.Worker
