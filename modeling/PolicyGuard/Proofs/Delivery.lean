import PolicyGuard.Event.Delivery

/-!
A queued sink hands on what it accepts: all of it, once, and in order.

Events and requests to acknowledge share one queue, so what the worker does follows
the order in which the callers were accepted. `Kept` is the invariant that says how
the events that were handed on, those that wait and those that were accepted hang
together; `Covers` says what stands before a flush.

* `kept_act`, `kept_run`: the invariant, over one action and any run;
* `covers_act`, `covers_run`: what stood before a flush is handed on before its
  acknowledgement;
* `pending_drain`: the worker gets through with what waits;
* `delivered_run`: what callers and the sink behind the queue can rely on.
-/

namespace PolicyGuard

namespace Queue

variable {α : Type}

def Message.event? : Message α → Option α
  | event e => some e
  | flush _ => none

/-- The events among some messages. -/
def events (messages : List (Message α)) : List α :=
  messages.filterMap Message.event?

@[simp]
theorem events_nil : events ([] : List (Message α)) = [] :=
  rfl

@[simp]
theorem events_event (e : α) (rest : List (Message α)) :
    events (.event e :: rest) = e :: events rest :=
  rfl

@[simp]
theorem events_flush (ticket : Nat) (rest : List (Message α)) :
    events (.flush ticket :: rest) = events rest :=
  rfl

theorem events_append (ms ns : List (Message α)) : events (ms ++ ns) = events ms ++ events ns :=
  List.filterMap_append

def Message.ticket? : Message α → Option Nat
  | event _ => none
  | flush ticket => some ticket

/-- What it takes for a message to be sent, and what the queue is then. -/
theorem send?_eq_some {q q' : Queue α} {m : Message α} (h : q.send? m = some q') :
    q.isOpen = true ∧ q.isAlive = true ∧
      q' = { q with
        pending := q.pending ++ [m], accepted := q.accepted ++ m.event?.toList } := by
  unfold send? at h
  split at h
  next hc =>
    rw [Bool.and_eq_true] at hc
    refine ⟨hc.1, hc.2, ?_⟩
    rw [← Option.some.inj h]
    cases m with
    | event e => rfl
    | flush ticket => simp [Message.event?]
  next => cases h

theorem send?_of_open {q : Queue α} (ho : q.isOpen = true) (ha : q.isAlive = true)
    (m : Message α) : (q.send? m).isSome = true := by
  simp [send?, ho, ha]

theorem work_idle {q : Queue α} (h : q.pending = []) : q.work = q := by
  unfold work
  rw [h]
  split <;> rfl

theorem work_event {q : Queue α} {e : α} {rest : List (Message α)} (ha : q.isAlive = true)
    (h : q.pending = .event e :: rest) :
    q.work = { q with pending := rest, handed := q.handed ++ [e] } := by
  simp [work, ha, h]

theorem work_flush {q : Queue α} {ticket : Nat} {rest : List (Message α)}
    (ha : q.isAlive = true) (h : q.pending = .flush ticket :: rest) :
    q.work = { q with pending := rest, acknowledged := q.acknowledged ++ [ticket] } := by
  simp [work, ha, h]

end Queue

namespace Delivery

variable {α σ : Type} {deliver : α → σ → Tracked × σ}

/-! ## One action -/

/-- What the worker may find: nothing to do, a request to acknowledge, or an event, over
which the sink may panic. -/
theorem work_cases (deliver : α → σ → Tracked × σ) {d : Delivery α σ}
    (hg : d.queue.isAlive = false → d.queue.pending = []) :
    (d.queue.pending = [] ∧ d.work deliver = d) ∨
      (d.queue.isAlive = true ∧ ∃ ticket rest, d.queue.pending = .flush ticket :: rest ∧
        d.work deliver = { d with queue := { d.queue with
          pending := rest, acknowledged := d.queue.acknowledged ++ [ticket] } }) ∨
      (d.queue.isAlive = true ∧ ∃ e rest, d.queue.pending = .event e :: rest ∧
        d.work deliver = { d with
          queue := { d.queue with
            pending := if (deliver e d.sink).1 = .panicked then [] else rest
            isAlive := (deliver e d.sink).1 ≠ .panicked
            handed := d.queue.handed ++ [e] }
          sink := (deliver e d.sink).2 }) := by
  cases hp : d.queue.pending with
  | nil =>
    refine Or.inl ⟨rfl, ?_⟩
    simp [work, hp, Queue.work_idle hp]
  | cons m rest =>
    have ha : d.queue.isAlive = true := by
      cases ha : d.queue.isAlive with
      | true => rfl
      | false => simp [hg ha] at hp
    cases m with
    | flush ticket =>
      refine Or.inr (Or.inl ⟨ha, ticket, rest, rfl, ?_⟩)
      simp [work, ha, hp, Queue.work_flush ha hp]
    | event e =>
      refine Or.inr (Or.inr ⟨ha, e, rest, rfl, ?_⟩)
      have hw := Queue.work_event ha hp
      cases hd : deliver e d.sink with
      | mk answer sink =>
        cases answer <;> simp [work, ha, hp, hd, hw, Queue.breakDown]

/-- The queue after a message of a caller. -/
theorem send_cases (d : Delivery α σ) (m : Queue.Message α) :
    (d.queue.send? m = none ∧ d.send m = d) ∨
      ((d.queue.send? m).isSome = true ∧ d.queue.isAlive = true ∧
        d.send m = { d with queue := { d.queue with
          pending := d.queue.pending ++ [m]
          accepted := d.queue.accepted ++ m.event?.toList } }) := by
  cases hs : d.queue.send? m with
  | none => exact Or.inl ⟨rfl, by simp [send, hs]⟩
  | some q =>
    obtain ⟨-, ha, rfl⟩ := Queue.send?_eq_some hs
    exact Or.inr ⟨rfl, ha, by simp [send, hs]⟩

/-! ## The invariant -/

/-- How the events that were accepted, those that wait and those that were handed on hang
together, with the sink that got the latter. Tickets are given out in order. -/
structure Kept (deliver : α → σ → Tracked × σ) (s : σ) (d : Delivery α σ) (sent : List α) :
    Prop where
  accepted : d.queue.accepted = sent
  whole : d.queue.isAlive = true → d.queue.handed ++ Queue.events d.queue.pending = sent
  gone : d.queue.isAlive = false → d.queue.pending = []
  handed : d.queue.handed <+: sent
  sink : d.sink = d.queue.handed.foldl (fun s e => (deliver e s).2) s
  tickets : ∀ ticket, ticket ∈ d.queue.acknowledged ∨ .flush ticket ∈ d.queue.pending →
    ticket < d.flushes

theorem kept_start (hasWorker : Bool) (s : σ) : Kept deliver s (start hasWorker s) [] := by
  cases hasWorker <;> constructor <;> simp [start, Queue.empty, Queue.breakDown]

theorem Kept.track {s : σ} {d : Delivery α σ} {sent : List α} (h : Kept deliver s d sent)
    (e : α) : Kept deliver s (d.send (.event e)) (sent ++ (if d.accepts e then [e] else [])) := by
  rcases send_cases d (.event e) with ⟨hn, hd⟩ | ⟨hs, ha, hd⟩
  · rw [hd]
    simpa [accepts, hn] using h
  · have hw := h.whole ha
    rw [hd, accepts, if_pos hs]
    constructor
    · simp [h.accepted, Queue.Message.event?]
    · intro _
      simp [Queue.events_append, ← hw]
    · intro hf
      simp [ha] at hf
    · exact h.handed.trans (List.prefix_append _ _)
    · exact h.sink
    · intro ticket ht
      apply h.tickets
      simpa using ht

theorem Kept.flush {s : σ} {d : Delivery α σ} {sent : List α} (h : Kept deliver s d sent) :
    Kept deliver s { d.send (.flush d.flushes) with flushes := d.flushes + 1 } sent := by
  rcases send_cases d (.flush d.flushes) with ⟨-, hd⟩ | ⟨-, ha, hd⟩
  · rw [hd]
    exact { h with tickets := fun ticket ht => Nat.lt_succ_of_lt (h.tickets ticket ht) }
  · rw [hd]
    constructor
    · simp [h.accepted, Queue.Message.event?]
    · intro _
      simp [Queue.events_append, h.whole ha]
    · intro hf
      simp [ha] at hf
    · exact h.handed
    · exact h.sink
    · intro ticket ht
      show ticket < d.flushes + 1
      have ht' : (ticket ∈ d.queue.acknowledged ∨ .flush ticket ∈ d.queue.pending) ∨
          ticket = d.flushes := by
        simpa [or_assoc] using ht
      rcases ht' with hold | rfl
      · have := h.tickets ticket hold
        omega
      · omega

theorem Kept.work {s : σ} {d : Delivery α σ} {sent : List α} (h : Kept deliver s d sent) :
    Kept deliver s (d.work deliver) sent := by
  rcases work_cases deliver h.gone with ⟨-, hd⟩ | ⟨ha, ticket, rest, hp, hd⟩ | ⟨ha, e, rest, hp, hd⟩
  · rw [hd]
    exact h
  · rw [hd]
    have hw := h.whole ha
    rw [hp, Queue.events_flush] at hw
    constructor
    · exact h.accepted
    · exact fun _ => hw
    · intro hf
      simp [ha] at hf
    · exact h.handed
    · exact h.sink
    · intro t ht
      apply h.tickets
      simpa [hp, or_assoc] using ht
  · rw [hd]
    have hw := h.whole ha
    rw [hp, Queue.events_event, List.append_cons] at hw
    constructor
    · exact h.accepted
    · intro hf
      have hf : (deliver e d.sink).1 ≠ .panicked := by simpa using hf
      simpa [hf] using hw
    · intro hf
      have hf : (deliver e d.sink).1 = .panicked := by simpa using hf
      simp [hf]
    · exact ⟨_, hw⟩
    · simp [h.sink]
    · intro t ht
      apply h.tickets
      rw [hp]
      rcases ht with ht | ht
      · exact Or.inl ht
      · right
        split at ht
        · cases ht
        · exact List.mem_cons_of_mem _ ht

theorem kept_act {s : σ} {d : Delivery α σ} {sent : List α} (h : Kept deliver s d sent)
    (a : Action α) :
    Kept deliver s (d.act deliver a) (sent ++ ((d.accepted? a).toList.map Prod.snd)) := by
  cases a with
  | track producer e =>
    have ht := h.track e
    cases hx : d.accepts e <;> simpa [act, accepted?, hx] using ht
  | flush producer => simpa [act, accepted?] using h.flush
  | work => simpa [act, accepted?] using h.work
  | close => simpa [act, accepted?] using
      (⟨h.accepted, h.whole, h.gone, h.handed, h.sink, h.tickets⟩ :
        Kept deliver s { d with queue := d.queue.close } sent)

theorem kept_run {s : σ} {d : Delivery α σ} {sent : List α} (h : Kept deliver s d sent)
    (actions : List (Action α)) :
    Kept deliver s (d.run deliver actions)
      (sent ++ (d.accepted deliver actions).map Prod.snd) := by
  induction actions generalizing d sent with
  | nil => simpa [run, accepted] using h
  | cons a rest ih =>
    have hr := ih (kept_act h a)
    rw [List.append_assoc, ← List.map_append] at hr
    exact hr

/-! ## What stands before a flush -/

/-- A message that is not the last one has the last one behind it. -/
theorem exists_of_concat {ms before after : List (Queue.Message α)} {m n : Queue.Message α}
    (h : ms ++ [m] = before ++ n :: after) (hn : n ≠ m) : ∃ rest, ms = before ++ n :: rest := by
  rcases List.eq_nil_or_concat after with rfl | ⟨rest, l, rfl⟩
  · exact absurd (List.append_inj_right' h rfl) (by simp [Ne.symm hn])
  · rw [List.concat_eq_append, ← List.cons_append, ← List.append_assoc] at h
    exact ⟨rest, List.append_inj_left' h rfl⟩

/-- These events stand before a flush: when it is acknowledged they are handed on. -/
structure Covers (d : Delivery α σ) (ticket : Nat) (events : List α) : Prop where
  acknowledged : ticket ∈ d.queue.acknowledged → events <+: d.queue.handed
  pending : ∀ before after, d.queue.pending = before ++ .flush ticket :: after →
    events <+: d.queue.handed ++ Queue.events before
  issued : ticket < d.flushes

theorem covers_flush {s : σ} {d : Delivery α σ} {sent : List α} (h : Kept deliver s d sent) :
    Covers { d.send (.flush d.flushes) with flushes := d.flushes + 1 } d.flushes sent := by
  have hfresh : ¬ (d.flushes ∈ d.queue.acknowledged ∨ .flush d.flushes ∈ d.queue.pending) := by
    intro ht
    exact absurd (h.tickets d.flushes ht) (Nat.lt_irrefl _)
  rw [not_or] at hfresh
  refine ⟨?_, ?_, Nat.lt_succ_self _⟩
  · intro ht
    rcases send_cases d (.flush d.flushes) with ⟨-, hd⟩ | ⟨-, -, hd⟩ <;>
      exact absurd (by simpa [hd] using ht) hfresh.1
  · intro before after hp
    rcases send_cases d (.flush d.flushes) with ⟨-, hd⟩ | ⟨-, ha, hd⟩
    · rw [hd] at hp
      exact absurd (by simp [show d.queue.pending = _ from hp]) hfresh.2
    · rw [hd] at hp ⊢
      -- the ticket is new, so the flush is the last message that waits
      have hl : after = [] := by
        rcases List.eq_nil_or_concat after with rfl | ⟨rest, l, rfl⟩
        · rfl
        · rw [List.concat_eq_append, ← List.cons_append, ← List.append_assoc] at hp
          have hq : d.queue.pending = _ := List.append_inj_left' hp rfl
          exact absurd (by simp [hq]) hfresh.2
      subst hl
      have hq : d.queue.pending = before := List.append_inj_left' hp rfl
      exact ⟨[], by rw [← hq, List.append_nil, h.whole ha]⟩

theorem Covers.send {d : Delivery α σ} {ticket : Nat} {events : List α}
    (h : Covers d ticket events) {m : Queue.Message α} (hm : .flush ticket ≠ m) :
    Covers (d.send m) ticket events := by
  rcases send_cases d m with ⟨-, hd⟩ | ⟨-, -, hd⟩
  · rw [hd]
    exact h
  · rw [hd]
    refine ⟨h.acknowledged, ?_, h.issued⟩
    intro before after hp
    obtain ⟨rest, hr⟩ := exists_of_concat hp hm
    exact h.pending before rest hr

theorem Covers.work {s : σ} {d : Delivery α σ} {sent : List α} (hk : Kept deliver s d sent)
    {ticket : Nat} {events : List α} (h : Covers d ticket events) :
    Covers (d.work deliver) ticket events := by
  rcases work_cases deliver hk.gone with ⟨-, hd⟩ | ⟨-, t, rest, hp, hd⟩ | ⟨-, e, rest, hp, hd⟩
  · rw [hd]
    exact h
  · rw [hd]
    refine ⟨?_, ?_, h.issued⟩
    · intro ht
      rcases List.mem_append.mp ht with ht | ht
      · exact h.acknowledged ht
      · obtain rfl := List.mem_singleton.mp ht
        simpa using h.pending [] rest hp
    · intro before after hq
      have hq : rest = before ++ .flush ticket :: after := hq
      simpa using h.pending (.flush t :: before) after (by rw [hp, hq, List.cons_append])
  · rw [hd]
    refine ⟨fun ht => (h.acknowledged ht).trans (List.prefix_append _ _), ?_, h.issued⟩
    intro before after hq
    have hq : (if (deliver e d.sink).1 = .panicked then [] else rest) =
        before ++ .flush ticket :: after := hq
    split at hq
    · simp at hq
    · have hb := h.pending (.event e :: before) after (by rw [hp, hq, List.cons_append])
      simpa using hb

theorem covers_act {s : σ} {d : Delivery α σ} {sent : List α} (hk : Kept deliver s d sent)
    {ticket : Nat} {events : List α} (h : Covers d ticket events) (a : Action α) :
    Covers (d.act deliver a) ticket events := by
  cases a with
  | track producer e => exact h.send (by simp)
  | flush producer =>
    have hm : (.flush ticket : Queue.Message α) ≠ .flush d.flushes := by
      have := h.issued
      simp
      omega
    have hs := h.send hm
    exact ⟨hs.acknowledged, hs.pending, Nat.lt_succ_of_lt h.issued⟩
  | work => exact h.work hk
  | close => exact ⟨h.acknowledged, h.pending, h.issued⟩

theorem covers_run {s : σ} {d : Delivery α σ} {sent : List α} (hk : Kept deliver s d sent)
    {ticket : Nat} {events : List α} (h : Covers d ticket events) (actions : List (Action α)) :
    Covers (d.run deliver actions) ticket events := by
  induction actions generalizing d sent with
  | nil => exact h
  | cons a rest ih => exact ih (kept_act hk a) (covers_act hk h a)

/-! ## A sink that does not panic -/

theorem isAlive_act (hc : ∀ e s, (deliver e s).1 ≠ .panicked) {s : σ} {d : Delivery α σ}
    {sent : List α} (h : Kept deliver s d sent) (a : Action α) :
    (d.act deliver a).queue.isAlive = d.queue.isAlive := by
  have hsend : ∀ m, (d.send m).queue.isAlive = d.queue.isAlive := by
    intro m
    rcases send_cases d m with ⟨-, hd⟩ | ⟨-, -, hd⟩ <;> rw [hd]
  cases a with
  | track producer e => exact hsend _
  | flush producer => exact hsend _
  | work =>
    show (d.work deliver).queue.isAlive = _
    rcases work_cases deliver h.gone with ⟨-, hd⟩ | ⟨-, t, rest, -, hd⟩ | ⟨ha, e, rest, -, hd⟩
    · rw [hd]
    · rw [hd]
    · rw [hd, ha]
      simp [hc e d.sink]
  | close => rfl

theorem isOpen_act {s : σ} {d : Delivery α σ} {sent : List α} (h : Kept deliver s d sent)
    {a : Action α} (ha : a ≠ .close) : (d.act deliver a).queue.isOpen = d.queue.isOpen := by
  have hsend : ∀ m, (d.send m).queue.isOpen = d.queue.isOpen := by
    intro m
    rcases send_cases d m with ⟨-, hd⟩ | ⟨-, -, hd⟩ <;> rw [hd]
  cases a with
  | track producer e => exact hsend _
  | flush producer => exact hsend _
  | work =>
    show (d.work deliver).queue.isOpen = _
    rcases work_cases deliver h.gone with ⟨-, hd⟩ | ⟨-, t, rest, -, hd⟩ | ⟨-, e, rest, -, hd⟩ <;>
      rw [hd]
  | close => exact absurd rfl ha

theorem isAlive_run (hc : ∀ e s, (deliver e s).1 ≠ .panicked) {s : σ} {d : Delivery α σ}
    {sent : List α} (h : Kept deliver s d sent) (actions : List (Action α)) :
    (d.run deliver actions).queue.isAlive = d.queue.isAlive := by
  induction actions generalizing d sent with
  | nil => rfl
  | cons a rest ih => exact (ih (kept_act h a)).trans (isAlive_act hc h a)

theorem isOpen_run {s : σ} {d : Delivery α σ} {sent : List α} (h : Kept deliver s d sent)
    {actions : List (Action α)} (ha : .close ∉ actions) :
    (d.run deliver actions).queue.isOpen = d.queue.isOpen := by
  induction actions generalizing d sent with
  | nil => rfl
  | cons a rest ih =>
    rw [List.mem_cons, not_or] at ha
    exact (ih (kept_act h a) ha.2).trans (isOpen_act h (Ne.symm ha.1))

/-- Without a worker nothing is accepted. -/
theorem accepted_of_dead (hc : ∀ e s, (deliver e s).1 ≠ .panicked) {s : σ} {d : Delivery α σ}
    {sent : List α} (h : Kept deliver s d sent) (hd : d.queue.isAlive = false)
    (actions : List (Action α)) : d.accepted deliver actions = [] := by
  induction actions generalizing d sent with
  | nil => rfl
  | cons a rest ih =>
    have hn : d.accepted? a = none := by
      cases a <;> simp [accepted?, accepts, Queue.send?, hd]
    rw [accepted, hn, ih (kept_act h a) (by rw [isAlive_act hc h, hd])]
    rfl

/-- The event of an action that tracks one. -/
def Action.event? : Action α → Option α
  | .track _ e => some e
  | _ => none

/-- While a queue is open every event is accepted. -/
theorem accepted_of_open (hc : ∀ e s, (deliver e s).1 ≠ .panicked) {s : σ} {d : Delivery α σ}
    {sent : List α} (h : Kept deliver s d sent) (ho : d.queue.isOpen = true)
    (ha : d.queue.isAlive = true) {actions : List (Action α)} (hn : .close ∉ actions) :
    (d.accepted deliver actions).map Prod.snd = actions.filterMap Action.event? := by
  induction actions generalizing d sent with
  | nil => rfl
  | cons a rest ih =>
    rw [List.mem_cons, not_or] at hn
    have hr := ih (kept_act h a) (by rw [isOpen_act h (Ne.symm hn.1), ho])
      (by rw [isAlive_act hc h, ha]) hn.2
    rw [accepted, List.map_append, hr]
    cases a with
    | track producer e =>
      have hacc : d.accepts e = true := Queue.send?_of_open ho ha _
      simp [accepted?, hacc, Action.event?]
    | flush producer => rfl
    | work => rfl
    | close => exact absurd rfl hn.1

/-- The worker gets through with all that waits. -/
theorem pending_drain (hc : ∀ e s, (deliver e s).1 ≠ .panicked) {d : Delivery α σ}
    (ha : d.queue.isAlive = true) :
    (d.run deliver (List.replicate d.queue.pending.length .work)).queue = { d.queue with
      pending := []
      handed := d.queue.handed ++ Queue.events d.queue.pending
      acknowledged :=
        d.queue.acknowledged ++ d.queue.pending.filterMap Queue.Message.ticket? } := by
  generalize hp : d.queue.pending = ms
  induction ms generalizing d with
  | nil =>
    obtain ⟨⟨pending, isOpen, isAlive, accepted, handed, acknowledged⟩, sink, flushes⟩ := d
    obtain rfl : pending = [] := hp
    simp [run]
  | cons m rest ih =>
    have hg : d.queue.isAlive = false → d.queue.pending = [] := by
      intro hf
      simp [ha] at hf
    show ((d.work deliver).run deliver (List.replicate rest.length .work)).queue = _
    rcases work_cases deliver hg with ⟨hn, -⟩ | ⟨-, t, ms, hq, hw⟩ | ⟨-, e, ms, hq, hw⟩
    · simp [hp] at hn
    · obtain ⟨rfl, rfl⟩ := List.cons.inj (hp.symm.trans hq)
      rw [ih (by rw [hw]; exact ha) (by rw [hw]), hw]
      simp [Queue.Message.ticket?]
    · obtain ⟨rfl, rfl⟩ := List.cons.inj (hp.symm.trans hq)
      rw [ih (by rw [hw]; simp [hc e d.sink]) (by rw [hw]; simp [hc e d.sink]), hw]
      simp [List.filterMap_cons, Queue.Message.ticket?, hc e d.sink, ha]

theorem isDrained_closed (hc : ∀ e s, (deliver e s).1 ≠ .panicked) {d : Delivery α σ}
    (ha : d.queue.isAlive = true) :
    (d.run deliver (.close :: List.replicate d.queue.pending.length .work)).queue.isDrained
      = true := by
  have hr := pending_drain hc (d := d.act deliver .close) ha
  rw [show (d.act deliver .close).queue.pending = d.queue.pending from rfl] at hr
  show ((d.act deliver .close).run deliver _).queue.isDrained = true
  rw [hr]
  rfl

/-- A flush of an open queue is told once the worker has got through with what waits. -/
theorem hasFlushed_drain (hc : ∀ e s, (deliver e s).1 ≠ .panicked) {d : Delivery α σ}
    (ho : d.queue.isOpen = true) (ha : d.queue.isAlive = true) (producer : Nat) :
    (d.run deliver (.flush producer ::
      List.replicate (d.queue.pending.length + 1) .work)).hasFlushed d.flushes = true := by
  have hs : d.act deliver (.flush producer) = { d with
      queue := { d.queue with pending := d.queue.pending ++ [.flush d.flushes] }
      flushes := d.flushes + 1 } := by
    simp [act, send, Queue.send?, ho, ha]
  have hr := pending_drain hc (d := d.act deliver (.flush producer)) (by rw [hs]; exact ha)
  rw [hs] at hr
  simp only [List.length_append, List.length_singleton] at hr
  show (((d.act deliver (.flush producer)).run deliver _).hasFlushed _) = true
  rw [hs, hasFlushed, hr]
  simp [Queue.Message.ticket?]

theorem run_append (d : Delivery α σ) (before after : List (Action α)) :
    d.run deliver (before ++ after) = (d.run deliver before).run deliver after :=
  List.foldl_append ..

/-- Once a queue is closed and worked off the sink has got all that was tracked before. -/
theorem sink_of_closed (hc : ∀ e s, (deliver e s).1 ≠ .panicked) (s : σ)
    {actions : List (Action α)} (hn : .close ∉ actions) :
    let d : Delivery α σ := (start true s).run deliver actions
    (d.run deliver (.close :: List.replicate d.queue.pending.length .work)).sink =
      (actions.filterMap Action.event?).foldl (fun s e => (deliver e s).2) s := by
  intro d
  have hk₀ : Kept deliver s (start true s) [] := kept_start true s
  have hk : Kept deliver s d (((start true s).accepted deliver actions).map Prod.snd) :=
    kept_run hk₀ actions
  have ha : d.queue.isAlive = true := isAlive_run hc hk₀ actions
  have hr := pending_drain hc (d := d.act deliver .close) ha
  have hw := hk.whole ha
  rw [accepted_of_open hc hk₀ rfl rfl hn] at hw
  have hh : (d.run deliver (.close :: List.replicate d.queue.pending.length .work)).queue.handed =
      actions.filterMap Action.event? := by
    rw [← hw]
    exact congrArg Queue.handed hr
  rw [← hh]
  exact (kept_run hk _).sink

/-! ## Any run -/

/-- **Delivery.** At any moment of any run the sink behind the queue has got a first part of
the accepted events, in order, and so for each producer. When a flush is told that all has
been handed on, so has all that was accepted before it. If the sink does not panic, then
nothing else is missing once the queue is closed and worked off, the worker gets there, and
until the queue is closed each event is accepted and each flush will be told. -/
theorem delivered_run (deliver : α → σ → Tracked × σ) (hasWorker : Bool) (s : σ)
    (actions : List (Action α)) :
    let d₀ : Delivery α σ := start hasWorker s
    let d := d₀.run deliver actions
    let sent := d₀.accepted deliver actions
    (∃ part, part <+: sent ∧ d.queue.handed = part.map Prod.snd ∧
        d.sink = d.queue.handed.foldl (fun s e => (deliver e s).2) s ∧
        ∀ producer, part.filter (·.1 = producer) <+: sent.filter (·.1 = producer)) ∧
      (∀ before producer after, actions = before ++ .flush producer :: after →
        d.hasFlushed (d₀.run deliver before).flushes = true →
        (d₀.accepted deliver before).map Prod.snd <+: d.queue.handed) ∧
      ((∀ e s, (deliver e s).1 ≠ .panicked) →
        (d.queue.isDrained = true → d.queue.handed = sent.map Prod.snd) ∧
        (d.run deliver (.close :: List.replicate d.queue.pending.length .work)).queue.isDrained
          = true ∧
        (hasWorker = true → .close ∉ actions → (∀ e, d.accepts e = true) ∧
          ∀ producer, (d.run deliver (.flush producer ::
            List.replicate (d.queue.pending.length + 1) .work)).hasFlushed d.flushes = true)) := by
  intro d₀ d sent
  have hk₀ : Kept deliver s d₀ [] := kept_start hasWorker s
  have hk : Kept deliver s d (sent.map Prod.snd) := kept_run hk₀ actions
  refine ⟨?_, ?_, ?_⟩
  · have hn := List.prefix_iff_eq_take.mp hk.handed
    rw [← List.map_take] at hn
    have hp := List.take_prefix d.queue.handed.length sent
    exact ⟨sent.take d.queue.handed.length, hp, hn, hk.sink, fun _ => hp.filter _⟩
  · rintro before producer after rfl ht
    have hb : Kept deliver s (d₀.run deliver before) _ := kept_run hk₀ before
    have hf := covers_flush hb
    have hc := covers_run (kept_act hb (.flush producer)) hf after
    have hd : d = ((d₀.run deliver before).act deliver (.flush producer)).run deliver after :=
      run_append d₀ before (.flush producer :: after)
    rw [hasFlushed, List.contains_iff_mem, hd] at ht
    rw [hd]
    exact hc.acknowledged ht
  · intro hc
    have ha : d.queue.isAlive = hasWorker := by
      have := isAlive_run hc hk₀ actions
      cases hasWorker <;> exact this
    refine ⟨?_, ?_, ?_⟩
    · intro hd
      have he : d.queue.pending = [] := by
        simp [Queue.isDrained] at hd
        exact hd.2
      cases hasWorker with
      | true =>
        have hw := hk.whole ha
        simpa [he] using hw
      | false =>
        have hn : sent = [] := accepted_of_dead hc hk₀ rfl actions
        have hp := hk.handed
        rw [hn] at hp ⊢
        exact List.prefix_nil.mp hp
    · cases hasWorker with
      | true => exact isDrained_closed hc ha
      | false =>
        rw [hk.gone ha]
        simp [run, act, Queue.close, Queue.isDrained, hk.gone ha]
    · rintro rfl ho
      have hopen : d.queue.isOpen = true := isOpen_run hk₀ ho
      exact ⟨fun e => Queue.send?_of_open hopen ha _, hasFlushed_drain hc hopen ha⟩

/-- A sink that notes each event, and fails over every even one. -/
def notesWithFailures (e : Nat) (s : List Nat) : Tracked × List Nat :=
  (if e % 2 = 0 then .failed .closed else .ok, s ++ [e])

/-- Two producers, and a flush while an event waits. -/
def twoProducers : List (Action Nat) :=
  [.track 0 1, .track 1 2, .work, .flush 0, .track 0 3, .work, .work]

theorem delivered_twoProducers :
    let d := (start true []).run notesWithFailures twoProducers
    d.hasFlushed 0 = true ∧ [1, 2] <+: d.queue.handed ∧ d.accepts 4 = true ∧
      (d.run notesWithFailures [.close, .track 1 4, .work]).sink = [1, 2, 3] := by
  have hc : ∀ e s, (notesWithFailures e s).1 ≠ .panicked := by
    intro e s
    unfold notesWithFailures
    split <;> simp
  obtain ⟨-, hf, ha⟩ := delivered_run notesWithFailures true [] twoProducers
  obtain ⟨-, -, ho⟩ := ha hc
  obtain ⟨⟨part, -, -, hs, -⟩, -, hd⟩ := delivered_run notesWithFailures true []
    (twoProducers ++ [.close, .track 1 4, .work])
  have hh := (hd hc).1 rfl
  refine ⟨rfl, hf [.track 0 1, .track 1 2, .work] 0 [.track 0 3, .work, .work] rfl rfl,
    (ho rfl (by decide)).1 4, ?_⟩
  rw [← run_append, hs, hh]
  rfl

end Delivery

end PolicyGuard
