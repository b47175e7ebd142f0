import PolicyGuard.Proofs.WorkerRuns

/-!
The refresh worker and its callers keep to a protocol.

* `awaits_run`: a refresh that waits comes closer to its end with each step of the worker;
* `turnedAway`, `served`: what a call is told, after a stop has taken the worker and before;
* `protocol_run`: what a run keeps to as a whole and for each call of it.
-/

namespace PolicyGuard.Cache.Worker

variable {w w' : Worker} {t ms : List Mark} {a : Action}

/-! ## A call and its reply -/

/-- What a mark tells this caller. -/
def Mark.replyTo? (ticket : Nat) : Mark → Option Reply
  | .refused k => if k = ticket then some .stopped else none
  | .ended (.caller k) outcome => if k = ticket then some (.refreshed outcome) else none
  | _ => none

theorem Kept.told (h : Kept w t) (ticket : Nat) :
    w.told ticket = t.filterMap (Mark.replyTo? ticket) := by
  rw [Worker.told, h.replies, List.filter_filterMap, List.map_filterMap]
  congr 1
  funext m
  cases m with
  | refused k => by_cases hk : k = ticket <;> simp [Mark.reply?, Mark.replyTo?, hk]
  | ended asker outcome =>
    cases asker with
    | caller k => by_cases hk : k = ticket <;> simp [Mark.reply?, Mark.replyTo?, hk]
    | _ => rfl
  | _ => rfl

/-- The refreshes for one call. -/
def own (refreshes : List Refresh) (ticket : Nat) : List Refresh :=
  refreshes.filter fun r => r.asker = .caller ticket

theorem InTurn.told {stage : Stage} {refreshes : List Refresh} (h : InTurn stage t refreshes)
    {ticket : Nat} (hn : .refused ticket ∉ t) :
    t.filterMap (Mark.replyTo? ticket) =
      (own refreshes ticket).map fun r => .refreshed r.outcome := by
  obtain ⟨current, hc, ht⟩ := h.filterMap_eq (f := Mark.replyTo? ticket) (by
    intro m hm hr
    cases m with
    | refused k =>
      have : k ≠ ticket := by
        rintro rfl
        exact hn hm
      simp [Mark.replyTo?, this]
    | sent c => rfl
    | _ => cases hr)
  have hs : current.filterMap (Mark.replyTo? ticket) = [] := by
    rw [List.filterMap_eq_nil_iff]
    intro m hm
    rcases hc.mem hm with ⟨asker, rfl⟩ | ⟨answer, rfl⟩ <;> rfl
  rw [ht, hs, List.append_nil]
  clear ht h
  induction refreshes with
  | nil => rfl
  | cons r rest ih =>
    rw [List.flatMap_cons, ih]
    obtain ⟨asker, answer, outcome⟩ := r
    cases asker with
    | caller k =>
      by_cases hk : k = ticket <;>
        simp [own, Refresh.marks, List.filterMap_cons, Mark.replyTo?, hk]
    | invalidation k => rfl
    | schedule => rfl

/-- Nobody is told of a call that was not made. -/
theorem marks_of_not_asked {actions : List Action} (hr : w.run? actions = some w') {ticket : Nat}
    (hn : .ask ticket ∉ actions) :
    .sent (.refresh (.caller ticket)) ∉ w.trace actions ∧ .refused ticket ∉ w.trace actions := by
  have hm : ∀ a ∈ actions, ∀ v ms v', Step v a ms v' →
      .sent (.refresh (.caller ticket)) ∉ ms ∧ .refused ticket ∉ ms := by
    intro a ha v ms v' hs
    have hne : .ask ticket ≠ a := by
      rintro rfl
      exact hn ha
    cases hs <;> simp_all
  exact ⟨not_mem_trace hr fun a ha v ms v' hs => (hm a ha v ms v' hs).1,
    not_mem_trace hr fun a ha v ms v' hs => (hm a ha v ms v' hs).2⟩

theorem isReachable_step (hs : Step w a ms w') :
    w'.isReachable = true ↔ w.isReachable = true ∧ a ≠ .detach := by
  cases hs <;> simp_all [Worker.send, conclude]

theorem isReachable_run {actions : List Action} (hr : w.run? actions = some w') :
    w'.isReachable = true ↔ w.isReachable = true ∧ .detach ∉ actions := by
  induction actions generalizing w with
  | nil =>
    obtain rfl := Option.some.inj hr
    simp
  | cons a rest ih =>
    obtain ⟨v, hv, hw, -⟩ := run?_cons hr
    rw [ih hw, isReachable_step (step_of_act hv), List.mem_cons, not_or, and_assoc, ne_comm]

/-! ## A call that waits -/

/-- How many steps a refresh is from its end. -/
def Stage.effort : Stage → Nat
  | .fetching _ => 3
  | .comparing _ _ => 2
  | .renewing _ | .publishing _ _ => 1
  | .waiting | .ended => 0

/-- A refresh is still to be done, so many steps of the worker away. -/
def Awaits (w : Worker) (asker : Asker) (n : Nat) : Prop :=
  (∃ before after, w.pending = before ++ .refresh asker :: after ∧
    n = w.stage.effort + 4 * (before.length + 1)) ∨
  w.stage.asker? = some asker ∧ n = w.stage.effort

theorem Stage.effort_pos {stage : Stage} {asker : Asker} (h : stage.asker? = some asker) :
    0 < stage.effort := by
  cases stage <;> simp_all [Stage.asker?, Stage.effort]

theorem Stage.effort_le (stage : Stage) : stage.effort ≤ 3 := by
  cases stage <;> simp [Stage.effort]

variable {asker : Asker} {n : Nat}

theorem Awaits.pos (h : Awaits w asker n) : 0 < n := by
  rcases h with ⟨before, after, -, rfl⟩ | ⟨ha, rfl⟩
  · omega
  · exact Stage.effort_pos ha

/-- Where the refresh in progress remains the same one. -/
theorem Awaits.goOn (h : Awaits w asker n) {more : List Command} {d : Nat}
    (hp : w'.pending = w.pending ++ more) (ha : w'.stage.asker? = w.stage.asker?)
    (he : w'.stage.effort + d ≤ w.stage.effort) : ∃ m, Awaits w' asker m ∧ m + d ≤ n := by
  rcases h with ⟨before, after, hb, rfl⟩ | ⟨hs, rfl⟩
  · refine ⟨_, .inl ⟨before, after ++ more, ?_, rfl⟩, by omega⟩
    rw [hp, hb, List.append_assoc, List.cons_append]
  · exact ⟨_, .inr ⟨ha.trans hs, rfl⟩, he⟩

theorem Awaits.conclude (h : Awaits w asker n) {v : Worker} {asker' : Asker}
    {outcome : Except FetchError Outcome} (hs : w.stage.asker? = some asker')
    (hp : v.pending = w.pending) :
    (∃ o, .ended asker o ∈ [Mark.ended asker' outcome]) ∨
      ∃ m, Awaits (v.conclude asker' outcome) asker m ∧ m + 1 ≤ n := by
  rcases h with ⟨before, after, hb, rfl⟩ | ⟨ha, rfl⟩
  · refine .inr ⟨_, .inl ⟨before, after, hp.trans hb, rfl⟩, ?_⟩
    have := Stage.effort_pos hs
    show 0 + 4 * (before.length + 1) + 1 ≤ _
    omega
  · obtain rfl := Option.some.inj (hs.symm.trans ha)
    exact .inl ⟨outcome, List.mem_singleton_self _⟩

/-- Each step of the worker brings a refresh closer to its end, if it does not end it. -/
theorem awaits_step (h : Awaits w asker n) (hs : Step w a ms w') :
    (∃ outcome, .ended asker outcome ∈ ms) ∨ ∃ m, Awaits w' asker m ∧
      m + (if a.isWork then 1 else 0) ≤ n + 3 * (if a.isDue then 1 else 0) := by
  cases hs with
  | take asker' rest hw hp =>
    right
    rcases h with ⟨before, after, hb, rfl⟩ | ⟨ha, -⟩
    · rw [hp] at hb
      cases before with
      | nil =>
        obtain ⟨he, -⟩ := List.cons.inj hb
        obtain rfl := Command.refresh.inj he
        exact ⟨3, .inr ⟨rfl, rfl⟩, by simp [hw, Action.isWork, Stage.effort]⟩
      | cons c before =>
        refine ⟨_, .inl ⟨before, after, (List.cons.inj hb).2, rfl⟩, ?_⟩
        simp [hw, Action.isWork, Stage.effort]
        omega
    · rw [hw] at ha
      cases ha
  | exit rest hw hp =>
    right
    rcases h with ⟨before, after, hb, rfl⟩ | ⟨ha, -⟩
    · rw [hp] at hb
      cases before with
      | nil => cases (List.cons.inj hb).1
      | cons c before =>
        refine ⟨_, .inl ⟨before, after, (List.cons.inj hb).2, rfl⟩, ?_⟩
        simp [hw, Action.isWork, Stage.effort]
        omega
    · rw [hw] at ha
      cases ha
  | due hw =>
    right
    rcases h with ⟨before, after, hb, rfl⟩ | ⟨ha, -⟩
    · refine ⟨_, .inl ⟨before, after, hb, rfl⟩, ?_⟩
      simp [hw, Action.isWork, Action.isDue, Stage.effort]
      omega
    · rw [hw] at ha
      cases ha
  | fail asker' e hw =>
    have hc : _ ∨ ∃ m, Awaits (w.conclude asker' (.error e)) asker m ∧ m + 1 ≤ n :=
      h.conclude (by rw [hw]; rfl) rfl
    rcases hc with ⟨o, ho⟩ | hc
    · exact .inl ⟨o, List.mem_cons_of_mem _ ho⟩
    · exact .inr hc
  | renew asker' now hw =>
    exact h.conclude (v := { w with snapshot := w.snapshot.renew now }) (by rw [hw]; rfl) rfl
  | publish asker' text now hw =>
    exact h.conclude (v := { w with snapshot := w.snapshot.publish now text }) (by rw [hw]; rfl) rfl
  | fetched asker' bundle hw =>
    exact .inr (h.goOn (List.append_nil _).symm (by rw [hw]; rfl) (by rw [hw]; exact Nat.le_refl _))
  | same asker' text hw hc =>
    exact .inr (h.goOn (List.append_nil _).symm (by rw [hw]; rfl) (by rw [hw]; exact Nat.le_refl _))
  | differ asker' text hw hc =>
    exact .inr (h.goOn (List.append_nil _).symm (by rw [hw]; rfl) (by rw [hw]; exact Nat.le_refl _))
  | ask ticket ho => exact .inr (h.goOn rfl rfl (Nat.le_refl _))
  | askAnew ticket ho => exact .inr (h.goOn rfl rfl (Nat.le_refl _))
  | sendStop hn => exact .inr (h.goOn rfl rfl (Nat.le_refl _))
  | _ => exact .inr (h.goOn (List.append_nil _).symm rfl (Nat.le_refl _))

theorem awaits_run (h : Awaits w asker n) {actions : List Action}
    (hr : w.run? actions = some w') :
    (∃ outcome, .ended asker outcome ∈ w.trace actions) ∨
      ∃ m, Awaits w' asker m ∧
        m + actions.countP Action.isWork ≤ n + 3 * actions.countP Action.isDue := by
  induction actions generalizing w n with
  | nil =>
    obtain rfl := Option.some.inj hr
    exact .inr ⟨n, h, Nat.le_refl _⟩
  | cons a rest ih =>
    obtain ⟨v, hv, hw, ht⟩ := run?_cons hr
    rw [ht]
    rcases awaits_step h (step_of_act hv) with ⟨outcome, ho⟩ | ⟨k, hk, hl⟩
    · exact .inl ⟨outcome, List.mem_append_left _ ho⟩
    · rcases ih hk hw with ⟨outcome, ho⟩ | ⟨m, hm, hl'⟩
      · exact .inl ⟨outcome, List.mem_append_right _ ho⟩
      · refine .inr ⟨m, hm, ?_⟩
        rw [List.countP_cons, List.countP_cons]
        omega

theorem Awaits.not_ended (hq : Queued w t) (h : Awaits w asker n) : w.stage ≠ .ended := by
  intro hs
  rcases h with ⟨before, after, hb, -⟩ | ⟨ha, -⟩
  · rw [hq.pending_eq_nil hs] at hb
    simp at hb
  · rw [hs] at ha
    cases ha

/-- The worker is never stuck while a refresh is still to be done. -/
theorem Awaits.exists_act (hq : Queued w t) (h : Awaits w asker n) (answer : Answer) (now : Nat) :
    ∃ a ∈ [.take, .fetched answer, .compare, .finish now], (w.act? a).isSome = true := by
  cases hs : w.stage with
  | waiting =>
    rcases h with ⟨before, after, hb, -⟩ | ⟨ha, -⟩
    · refine ⟨.take, by simp, ?_⟩
      cases before <;> simp [act?, take?, hs, hb]
    · rw [hs] at ha
      cases ha
  | fetching asker' =>
    refine ⟨.fetched answer, by simp, ?_⟩
    cases answer <;> simp [act?, fetched?, hs]
  | comparing asker' text => exact ⟨.compare, by simp, by simp [act?, compare?, hs]⟩
  | renewing asker' => exact ⟨.finish now, by simp, by simp [act?, finish?, hs]⟩
  | publishing asker' text => exact ⟨.finish now, by simp, by simp [act?, finish?, hs]⟩
  | ended => exact absurd hs (h.not_ended hq)

/-! ## Any run -/

/-- A run keeps to the protocol. -/
structure Orderly (t : List Mark) (stage : Stage) (refreshes : List Refresh) : Prop where
  /-- Only the last command can be a stop. -/
  stopsLast : .stop ∉ (t.filterMap Mark.sent?).dropLast
  /-- A refresh begins only after the one before it has ended. -/
  inTurn : InTurn stage t refreshes
  fits : ∀ r ∈ refreshes, r.Fits
  /-- The refreshes on command begin in the order of the commands, one for each. -/
  inOrder : onCommand t <+: askers t
  /-- All of them have ended when the worker ends. -/
  complete : stage = .ended → (refreshes.map Refresh.asker).filter (· ≠ .schedule) = askers t

/-- A call that reaches a worker is told the outcome of its own refresh, once. It takes the
worker a bounded number of steps, those of due refreshes in between apart. -/
structure Served (v : Worker) (after : List Action) (w : Worker) (refreshes : List Refresh)
    (ticket : Nat) : Prop where
  told : w.told ticket = (own refreshes ticket).map fun r => .refreshed r.outcome
  once : (own refreshes ticket).length ≤ 1
  answered : w.stage = .ended → own refreshes ticket ≠ []
  soon : 4 * v.pending.length + 7 + 3 * after.countP Action.isDue ≤ after.countP Action.isWork →
    own refreshes ticket ≠ []
  goesOn : own refreshes ticket = [] → ∀ answer now,
    ∃ a ∈ [.take, .fetched answer, .compare, .finish now], (w.act? a).isSome = true

theorem Kept.orderly (h : Kept w t) : ∃ refreshes, Orderly t w.stage refreshes := by
  obtain ⟨refreshes, hi, hf⟩ := h.exclusive
  refine ⟨refreshes, ?_, hi, hf, h.onCommand_prefix, ?_⟩
  · rw [h.queued.sent]
    exact h.queued.last
  · intro he
    have hb := hi.began
    rw [he, show Stage.ended.asker?.toList = [] from rfl, List.append_nil] at hb
    rw [← hb, askers, h.queued.sent, h.queued.queue, h.queued.pending_eq_nil he, List.append_nil]
    exact h.inOrder

theorem own_eq_nil {refreshes : List Refresh} {ticket : Nat} {stage : Stage}
    (h : InTurn stage t refreshes) (hn : .began (.caller ticket) ∉ t) :
    own refreshes ticket = [] := by
  rw [own, List.filter_eq_nil_iff]
  intro r hr ha
  have hb : .caller ticket ∈ t.filterMap Mark.began? := by
    rw [h.began]
    exact List.mem_append_left _ (List.mem_map.mpr ⟨r, hr, by simpa using ha⟩)
  obtain ⟨m, hm, he⟩ := List.mem_filterMap.mp hb
  cases m with
  | began asker =>
    obtain rfl := Option.some.inj he
    exact hn hm
  | _ => cases he

theorem own_ne_nil {refreshes : List Refresh} {ticket : Nat} {stage : Stage}
    (h : InTurn stage t refreshes) {outcome : Except FetchError Outcome}
    (he : .ended (.caller ticket) outcome ∈ t) : own refreshes ticket ≠ [] := by
  obtain ⟨current, ht, hc⟩ := h
  have hm : .ended (.caller ticket) outcome ∈ refreshes.flatMap Refresh.marks ++ current := by
    rw [← ht]
    exact List.mem_filter.mpr ⟨he, rfl⟩
  rcases List.mem_append.mp hm with hm | hm
  · obtain ⟨r, hr, hm⟩ := List.mem_flatMap.mp hm
    have ha : r.asker = .caller ticket := by
      simp [Refresh.marks] at hm
      exact hm.1.symm
    exact List.ne_nil_of_mem (List.mem_filter.mpr ⟨hr, by simpa using ha⟩)
  · rcases hc.mem hm with ⟨asker, he⟩ | ⟨answer, he⟩ <;> cases he

theorem length_own {refreshes : List Refresh} {ticket : Nat} {stage : Stage}
    (h : InTurn stage t refreshes) :
    (own refreshes ticket).length ≤ (onCommand t).count (.caller ticket) := by
  have hl : (own refreshes ticket).length = (refreshes.map Refresh.asker).count (.caller ticket) := by
    rw [own, ← List.countP_eq_length_filter, List.count, List.countP_map]
    rfl
  rw [hl, onCommand, List.count_filter (by simp), h.began, List.count_append]
  exact Nat.le_add_right _ _

theorem askers_append (t u : List Mark) : askers (t ++ u) = askers t ++ askers u := by
  simp only [askers, List.filterMap_append]

theorem turnedAway {before after : List Mark} {ticket : Nat}
    (h : Kept w (before ++ .refused ticket :: after))
    (hb : .sent (.refresh (.caller ticket)) ∉ before ∧ .refused ticket ∉ before)
    (ha : .sent (.refresh (.caller ticket)) ∉ after ∧ .refused ticket ∉ after) :
    w.told ticket = [.stopped] ∧
      .began (.caller ticket) ∉ before ++ .refused ticket :: after := by
  have hn : .began (.caller ticket) ∉ before ++ .refused ticket :: after := by
    apply h.not_began (by simp)
    simp [hb.1, ha.1]
  obtain ⟨refreshes, hi, -⟩ := h.exclusive
  have hnil : ∀ part : List Mark, part ⊆ before ++ .refused ticket :: after →
      .refused ticket ∉ part → part.filterMap (Mark.replyTo? ticket) = [] := by
    intro part hp hr
    rw [List.filterMap_eq_nil_iff]
    intro m hm
    cases m with
    | refused k =>
      have hk : k ≠ ticket := by
        rintro rfl
        exact hr hm
      simp [Mark.replyTo?, hk]
    | ended asker outcome =>
      cases asker with
      | caller k =>
        have hk : k ≠ ticket := by
          rintro rfl
          exact own_ne_nil hi (hp hm) (own_eq_nil hi hn)
        simp [Mark.replyTo?, hk]
      | _ => rfl
    | _ => rfl
  refine ⟨?_, hn⟩
  rw [h.told, List.filterMap_append, hnil before (by simp) hb.2, List.filterMap_cons,
    hnil after (by intro m hm; simp [hm]) ha.2]
  simp [Mark.replyTo?]

theorem served {v : Worker} {before : List Mark} {after : List Action} {ticket : Nat}
    {refreshes : List Refresh}
    (hr : (v.send (.refresh (.caller ticket))).run? after = some w)
    (hk : Kept w (before ++ .sent (.refresh (.caller ticket)) ::
      (v.send (.refresh (.caller ticket))).trace after))
    (hi : InTurn w.stage (before ++ .sent (.refresh (.caller ticket)) ::
      (v.send (.refresh (.caller ticket))).trace after) refreshes)
    (hb : .sent (.refresh (.caller ticket)) ∉ before ∧ .refused ticket ∉ before)
    (ha : .ask ticket ∉ after) : Served v after w refreshes ticket := by
  obtain ⟨ha, hf⟩ := marks_of_not_asked hr ha
  have hw : Awaits (v.send (.refresh (.caller ticket))) (.caller ticket)
      (v.stage.effort + 4 * (v.pending.length + 1)) := .inl ⟨v.pending, [], rfl, rfl⟩
  have hd : own refreshes ticket = [] → ∃ m, Awaits w (.caller ticket) m ∧
      m + after.countP Action.isWork ≤
        v.stage.effort + 4 * (v.pending.length + 1) + 3 * after.countP Action.isDue := by
    intro hn
    rcases awaits_run hw hr with ⟨outcome, ho⟩ | hm
    · exact absurd hn (own_ne_nil hi (List.mem_append_right _ (List.mem_cons_of_mem _ ho)))
    · exact hm
  refine ⟨?_, ?_, ?_, ?_, ?_⟩
  · rw [hk.told, hi.told]
    simp [hb.2, hf]
  · refine Nat.le_trans (length_own hi) (Nat.le_trans (hk.onCommand_prefix.count_le _) ?_)
    have hz : ∀ t : List Mark, .sent (.refresh (.caller ticket)) ∉ t →
        (askers t).count (.caller ticket) = 0 :=
      fun t ht => List.count_eq_zero.mpr fun hm => ht (mem_askers hm)
    rw [askers_append, List.count_append, hz _ hb.1, ← List.singleton_append, askers_append,
      List.count_append, hz _ ha]
    simp [askers, Mark.sent?, Command.asker?]
  · intro he hn
    obtain ⟨m, hm, -⟩ := hd hn
    exact hm.not_ended hk.queued he
  · -- four steps for each command before it and its own, three for the refresh in progress
    intro hl hn
    obtain ⟨m, hm, hl'⟩ := hd hn
    have := hm.pos
    have := v.stage.effort_le
    omega
  · intro hn answer now
    obtain ⟨m, hm, -⟩ := hd hn
    exact hm.exists_act hk.queued answer now

/-- **The protocol.** In any run of a worker and its callers, each call with a ticket of its
own, only the last command is a stop, refreshes do not overlap, those on command begin in
order, one for each command, and all have ended when the worker ends. A call after a stop
has taken the worker is turned away and asks the source for nothing; any other one is
served by a refresh that began after the call. -/
theorem protocol_run {s : Snapshot} {actions : List Action} (hr : (start s).run? actions = some w)
    (hd : (actions.filterMap Action.caller?).Nodup) :
    let t := (start s).trace actions
    ∃ refreshes, Orderly t w.stage refreshes ∧
      ∀ before ticket after, actions = before ++ .ask ticket :: after →
        (.detach ∈ before → w.told ticket = [.stopped] ∧ .began (.caller ticket) ∉ t) ∧
        (.detach ∉ before → .began (.caller ticket) ∉ (start s).trace before ∧
          ∃ v, (start s).run? before = some v ∧ Served v after w refreshes ticket) := by
  have hk := kept_run hr
  obtain ⟨refreshes, ho⟩ := hk.orderly
  refine ⟨refreshes, ho, ?_⟩
  rintro before ticket after rfl
  rw [List.filterMap_append, List.nodup_append] at hd
  obtain ⟨-, hda, hdb⟩ := hd
  have hnb : .ask ticket ∉ before := by
    intro hm
    exact hdb ticket (List.mem_filterMap.mpr ⟨_, hm, rfl⟩) ticket (List.mem_cons_self ..) rfl
  have hna : .ask ticket ∉ after := by
    intro hm
    exact (List.nodup_cons.mp hda).1 (List.mem_filterMap.mpr ⟨_, hm, rfl⟩)
  obtain ⟨v, hv, hw, ht⟩ := run?_append hr
  obtain ⟨u, hu, hw, hta⟩ := run?_cons hw
  have hb := marks_of_not_asked hv hnb
  have hreach := isReachable_run hv
  rw [ht, hta] at hk ho ⊢
  constructor
  · intro hdet
    have hc : v.isReachable = false := by
      cases hv : v.isReachable with
      | false => rfl
      | true => exact absurd hdet (hreach.mp hv).2
    have ha := marks_of_not_asked hw hna
    rw [show v.marks (.ask ticket) = [.refused ticket] by simp [marks, hc]] at hk ⊢
    exact turnedAway hk hb ha
  · intro hdet
    have hc : v.isReachable = true := hreach.mpr ⟨rfl, hdet⟩
    obtain rfl : u = v.send (.refresh (.caller ticket)) := by
      simp [act?, hc] at hu
      exact hu.symm
    rw [show v.marks (.ask ticket) = [.sent (.refresh (.caller ticket))] by simp [marks, hc]]
      at hk ho
    refine ⟨(kept_run hv).not_began (by simp) hb.1, v, hv, ?_⟩
    exact served hw hk ho.inTurn hb hna

/-- Two callers, an invalidation and a due refresh, while a stop takes the worker away. -/
def twoCallers : List Action :=
  [.ask 1, .take, .forget 0, .askAnew 0, .ask 2, .fetched (.error (.refused "busy")), .detach,
    .startDue, .ask 3, .fetched (.error (.refused "late")), .take, .sendStop,
    .fetched (.error (.refused "again")), .take, .fetched (.error (.refused "down")), .take]

theorem protocol_twoCallers :
    ∃ w, (start .empty).run? twoCallers = some w ∧ w.stage = .ended ∧
      w.told 1 = [.refreshed (.error (.refused "busy"))] ∧
      w.told 2 = [.refreshed (.error (.refused "down"))] ∧ w.told 3 = [.stopped] ∧
      .began (.caller 3) ∉ (start .empty).trace twoCallers := by
  have hr : (start .empty).run? twoCallers = some _ := rfl
  obtain ⟨refreshes, -, hc⟩ := protocol_run hr (by decide)
  obtain ⟨ha, -⟩ := hc (twoCallers.take 8) 3 (twoCallers.drop 9) rfl
  obtain ⟨ht, hb⟩ := ha (by simp [twoCallers])
  exact ⟨_, rfl, rfl, rfl, rfl, ht, hb⟩

end PolicyGuard.Cache.Worker
