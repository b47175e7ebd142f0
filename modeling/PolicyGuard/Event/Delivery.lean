import PolicyGuard.Event.Sink

/-!
A queued sink at work: its callers, its worker and the sink behind the queue.

Any number of producers track events and flush while the worker takes messages, in
any order that the parties bring about; `Delivery.run` follows one such order. The
sink behind the queue is any function of its own state. It may fail, and if it
panics the worker breaks down.
-/

namespace PolicyGuard

structure Delivery (α σ : Type) where
  queue : Queue α
  /-- The state of the sink behind the queue. -/
  sink : σ
  /-- How many flushes there were. Each has a ticket of its own. -/
  flushes : Nat

/-- What may happen next at a queued sink. It is closed when it goes away. -/
inductive Delivery.Action (α : Type) where
  | track (producer : Nat) (e : α)
  | flush (producer : Nat)
  | work
  | close
  deriving DecidableEq, Repr

namespace Delivery

variable {α σ : Type}

/-- A new queued sink. Where no worker can be started nothing is ever taken. -/
def start (hasWorker : Bool) (sink : σ) : Delivery α σ :=
  ⟨if hasWorker then .empty else Queue.empty.breakDown, sink, 0⟩

/-- A message of a caller, which is lost where the queue does not take it. -/
def send (d : Delivery α σ) (m : Queue.Message α) : Delivery α σ :=
  { d with queue := (d.queue.send? m).getD d.queue }

/-- The worker takes the next message and hands an event on. -/
def work (deliver : α → σ → Tracked × σ) (d : Delivery α σ) : Delivery α σ :=
  match d.queue.isAlive, d.queue.pending with
  | true, .event e :: _ =>
    match deliver e d.sink with
    | (.panicked, sink) => { d with queue := d.queue.work.breakDown, sink }
    | (_, sink) => { d with queue := d.queue.work, sink }
  | _, _ => { d with queue := d.queue.work }

def act (deliver : α → σ → Tracked × σ) (d : Delivery α σ) : Action α → Delivery α σ
  | .track _ e => d.send (.event e)
  | .flush _ => { d.send (.flush d.flushes) with flushes := d.flushes + 1 }
  | .work => d.work deliver
  | .close => { d with queue := d.queue.close }

def run (deliver : α → σ → Tracked × σ) (d : Delivery α σ) (actions : List (Action α)) :
    Delivery α σ :=
  actions.foldl (act deliver) d

/-! ## What callers are told -/

/-- Whether an event that is tracked now is accepted. -/
def accepts (d : Delivery α σ) (e : α) : Bool :=
  (d.queue.send? (.event e)).isSome

/-- The event that an action gets accepted, with its producer. -/
def accepted? (d : Delivery α σ) : Action α → Option (Nat × α)
  | .track producer e => if d.accepts e then some (producer, e) else none
  | _ => none

/-- The events that are accepted during some actions, in order. -/
def accepted (deliver : α → σ → Tracked × σ) (d : Delivery α σ) :
    List (Action α) → List (Nat × α)
  | [] => []
  | a :: rest => (d.accepted? a).toList ++ accepted deliver (d.act deliver a) rest

/-- Whether the flush with this ticket is told that all has been handed on, if it is
told now. -/
def hasFlushed (d : Delivery α σ) (ticket : Nat) : Bool :=
  d.queue.acknowledged.contains ticket

end Delivery

end PolicyGuard
