/-!
A queue between producers and one worker.

Producers send events and requests to acknowledge; the worker takes the messages
in order.
-/

namespace PolicyGuard

/-- What a producer sends. A ticket names one request to acknowledge. -/
inductive Queue.Message (α : Type) where
  | event (e : α)
  | flush (ticket : Nat)
  deriving DecidableEq, Repr

structure Queue (α : Type) where
  pending : List (Queue.Message α)
  /-- Whether producers can still send. -/
  isOpen : Bool
  /-- Whether the worker still takes messages. -/
  isAlive : Bool
  /-- Every event that was sent, in order. -/
  accepted : List α
  /-- Every event that the worker has handed on, in order. -/
  handed : List α
  /-- The tickets that are acknowledged. -/
  acknowledged : List Nat
  deriving DecidableEq, Repr

namespace Queue

variable {α : Type}

def empty : Queue α :=
  ⟨[], true, true, [], [], []⟩

/-- A message sent by a producer, where the queue takes it. -/
def send? (q : Queue α) (m : Message α) : Option (Queue α) :=
  if q.isOpen && q.isAlive then
    some { q with
      pending := q.pending ++ [m]
      accepted := match m with
        | .event e => q.accepted ++ [e]
        | .flush _ => q.accepted }
  else none

/-- No producer sends any more; what is pending stays. -/
def close (q : Queue α) : Queue α :=
  { q with isOpen := false }

/-- The worker breaks down, and what is pending is lost. -/
def breakDown (q : Queue α) : Queue α :=
  { q with isAlive := false, pending := [] }

/-- The worker takes the next message. -/
def work (q : Queue α) : Queue α :=
  if q.isAlive then
    match q.pending with
    | [] => q
    | .event e :: rest => { q with pending := rest, handed := q.handed ++ [e] }
    | .flush ticket :: rest =>
      { q with pending := rest, acknowledged := q.acknowledged ++ [ticket] }
  else q

/-- Closed and worked off. -/
def isDrained (q : Queue α) : Bool :=
  !q.isOpen && q.pending.isEmpty

end Queue

end PolicyGuard
