import PolicyGuard.Cache.Worker

/-!
What callers and the source see of a refresh worker.
-/

namespace PolicyGuard.Cache.Worker

inductive Mark where
  | sent (c : Command)
  /-- A caller is turned away. -/
  | refused (ticket : Nat)
  /-- A refresh begins: the source is asked. -/
  | began (asker : Asker)
  | got (answer : Answer)
  | ended (asker : Asker) (outcome : Except FetchError Outcome)

/-- What is seen of an action, where it is possible. -/
def marks (w : Worker) : Action → List Mark
  | .ask ticket =>
    if w.isReachable then [.sent (.refresh (.caller ticket))] else [.refused ticket]
  | .forget _ => []
  | .askAnew ticket => if w.isReachable then [.sent (.refresh (.invalidation ticket))] else []
  | .detach => []
  | .sendStop => [.sent .stop]
  | .take =>
    match w.pending with
    | .refresh asker :: _ => [.began asker]
    | _ => []
  | .startDue => [.began .schedule]
  | .fetched answer =>
    match w.stage, answer with
    | .fetching asker, .error e => [.got answer, .ended asker (.error e)]
    | _, _ => [.got answer]
  | .compare => []
  | .finish _ =>
    match w.stage with
    | .renewing asker => [.ended asker (.ok .unchanged)]
    | .publishing asker text => [.ended asker (.ok (.published (Policy.read text).length))]
    | _ => []

/-- What is seen of some actions, as far as they are possible. -/
def trace (w : Worker) : List Action → List Mark
  | [] => []
  | a :: rest =>
    match w.act? a with
    | some w' => w.marks a ++ trace w' rest
    | none => []

/-- What a caller was told. -/
def told (w : Worker) (ticket : Nat) : List Reply :=
  (w.replies.filter (·.1 = ticket)).map Prod.snd

/-- Whether an action is a step of the worker on a command or a refresh that it has begun. -/
def Action.isWork : Action → Bool
  | .take | .fetched _ | .compare | .finish _ => true
  | _ => false

def Action.isDue : Action → Bool
  | .startDue => true
  | _ => false

/-- The caller that an action asks for. -/
def Action.caller? : Action → Option Nat
  | .ask ticket => some ticket
  | _ => none

def Command.asker? : Command → Option Asker
  | .refresh asker => some asker
  | .stop => none

/-- Whom the refresh in progress is for. -/
def Stage.asker? : Stage → Option Asker
  | .fetching asker | .comparing asker _ | .renewing asker | .publishing asker _ => some asker
  | .waiting | .ended => none

namespace Mark

def sent? : Mark → Option Command
  | sent c => some c
  | _ => none

def began? : Mark → Option Asker
  | began asker => some asker
  | _ => none

/-- What a mark tells a caller. -/
def reply? : Mark → Option (Nat × Reply)
  | refused ticket => some (ticket, .stopped)
  | ended (.caller ticket) outcome => some (ticket, .refreshed outcome)
  | _ => none

/-- Whether a mark is one of a refresh. -/
def isOfRefresh : Mark → Bool
  | began _ | got _ | ended _ _ => true
  | _ => false

end Mark

/-- One refresh, as it is seen. -/
structure Refresh where
  asker : Asker
  answer : Answer
  outcome : Except FetchError Outcome

namespace Refresh

def marks (r : Refresh) : List Mark :=
  [.began r.asker, .got r.answer, .ended r.asker r.outcome]

/-- The outcome is one that the answer may lead to. -/
def Fits (r : Refresh) : Prop :=
  match r.answer with
  | .error e => r.outcome = .error e
  | .ok bundle => r.outcome = .ok .unchanged ∨
      r.outcome = .ok (.published (Policy.read bundle.combined).length)

end Refresh

end PolicyGuard.Cache.Worker
