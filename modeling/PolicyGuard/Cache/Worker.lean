import PolicyGuard.Cache.Snapshot

/-!
The refresh worker of a cache and its callers, action by action.

Callers send commands while the worker is reachable, and the worker takes them in
order; now and then it refreshes by itself. A refresh asks the source, compares and
finishes, and any caller may act in between. `Worker.act?` says what each action
does, and `Worker.run?` follows one interleaving.
-/

namespace PolicyGuard.Cache

namespace Worker

/-- Who a refresh is for. Callers and invalidations go by tickets. -/
inductive Asker where
  | caller (ticket : Nat)
  | invalidation (ticket : Nat)
  | schedule
  deriving DecidableEq, Repr

inductive Command where
  | refresh (asker : Asker)
  | stop
  deriving DecidableEq, Repr

/-- What the worker is about to do. -/
inductive Stage where
  | waiting
  | fetching (asker : Asker)
  | comparing (asker : Asker) (text : String)
  | renewing (asker : Asker)
  | publishing (asker : Asker) (text : String)
  | ended
  deriving DecidableEq, Repr

/-- What a caller is told. -/
inductive Reply where
  | refreshed (outcome : Except FetchError Outcome)
  | stopped

/-- What may happen next. An invalidation forgets first and asks then; the first stop
takes the worker away from all callers and sends its command then, and a later one
finds none. -/
inductive Action where
  | ask (ticket : Nat)
  | forget (ticket : Nat)
  | askAnew (ticket : Nat)
  | detach
  | sendStop
  | take
  | startDue
  | fetched (answer : Answer)
  | compare
  | finish (now : Nat)

end Worker

structure Worker where
  snapshot : Snapshot
  /-- Whether callers can send commands. -/
  isReachable : Bool
  /-- Whether a stop has still to send its command. -/
  stopsNext : Bool
  pending : List Worker.Command
  stage : Worker.Stage
  /-- Every command that was sent, in order. -/
  sent : List Worker.Command
  /-- Every command that the worker has taken, in order. -/
  taken : List Worker.Command
  /-- What each caller was told, in order. -/
  replies : List (Nat × Worker.Reply)

namespace Worker

/-- A worker that has had no command. -/
def start (s : Snapshot) : Worker :=
  ⟨s, true, false, [], .waiting, [], [], []⟩

def send (w : Worker) (c : Command) : Worker :=
  { w with pending := w.pending ++ [c], sent := w.sent ++ [c] }

/-- Ends a refresh and tells its caller. -/
def conclude (w : Worker) (asker : Asker) (outcome : Except FetchError Outcome) : Worker :=
  { w with
    stage := .waiting
    replies := match asker with
      | .caller ticket => w.replies ++ [(ticket, .refreshed outcome)]
      | _ => w.replies }

/-- The worker takes the next command. -/
def take? (w : Worker) : Option Worker :=
  match w.stage, w.pending with
  | .waiting, c :: rest =>
    let stage := match c with
      | .refresh asker => .fetching asker
      | .stop => .ended
    some { w with pending := rest, taken := w.taken ++ [c], stage }
  | _, _ => none

/-- The source answers the worker. -/
def fetched? (w : Worker) (answer : Answer) : Option Worker :=
  match w.stage, answer with
  | .fetching asker, .ok bundle => some { w with stage := .comparing asker bundle.combined }
  | .fetching asker, .error e => some (w.conclude asker (.error e))
  | _, _ => none

def compare? (w : Worker) : Option Worker :=
  match w.stage with
  | .comparing asker text =>
    some { w with stage :=
      if w.snapshot.isCurrent (contentHash text) then .renewing asker
      else .publishing asker text }
  | _ => none

def finish? (w : Worker) (now : Nat) : Option Worker :=
  match w.stage with
  | .renewing asker =>
    some ({ w with snapshot := w.snapshot.renew now }.conclude asker (.ok .unchanged))
  | .publishing asker text =>
    some ({ w with snapshot := w.snapshot.publish now text }.conclude asker
      (.ok (.published (Policy.read text).length)))
  | _ => none

/-- The worker after an action, where the action is possible. -/
def act? (w : Worker) : Action → Option Worker
  | .ask ticket =>
    some (if w.isReachable then w.send (.refresh (.caller ticket))
      else { w with replies := w.replies ++ [(ticket, .stopped)] })
  | .forget _ => some { w with snapshot := w.snapshot.forget }
  | .askAnew ticket =>
    some (if w.isReachable then w.send (.refresh (.invalidation ticket)) else w)
  | .detach =>
    some (if w.isReachable then { w with isReachable := false, stopsNext := true } else w)
  | .sendStop => if w.stopsNext then some ({ w with stopsNext := false }.send .stop) else none
  | .take => w.take?
  | .startDue => if w.stage = .waiting then some { w with stage := .fetching .schedule } else none
  | .fetched answer => w.fetched? answer
  | .compare => w.compare?
  | .finish now => w.finish? now

/-- The worker after some actions, where they are possible. -/
def run? (w : Worker) : List Action → Option Worker
  | [] => some w
  | a :: rest => (w.act? a).bind fun w => run? w rest

end Worker

end PolicyGuard.Cache
