import PolicyGuard.Cache.Operation

/-!
The calls that a cache takes from its owner, and its replies.
-/

namespace PolicyGuard.Cache

/-- What a cache tells about its snapshot. -/
structure Status where
  isLoaded : Bool
  ruleCount : Nat
  contentHash : String
  lastSuccess : Option Nat
  generation : Nat
  successes : Nat
  deriving DecidableEq, Repr

def Snapshot.status (s : Snapshot) : Status :=
  ⟨s.isLoaded, s.ruleCount, s.contentHash, s.lastSuccess, s.generation, s.successes⟩

/-- A call, with the answer that the source would give if it were asked. -/
inductive Call where
  | evaluate (subject : Policy.Subject)
  | refreshNow (answer : Answer)
  | invalidate (answer : Answer)
  | stop
  | status

inductive Reply where
  | verdict (v : Policy.Verdict)
  | refreshed (outcome : Except RefreshError Outcome)
  | done
  | panicked
  | status (s : Status)

/-- The reply to a call, and the cache after it. -/
def call (c : Cache) (now : Nat) : Call → Reply × Cache
  | .evaluate subject => (.verdict (c.evaluate now subject), c)
  | .refreshNow answer =>
    let (outcome, c) := c.refreshNow now answer
    (.refreshed outcome, c)
  | .invalidate answer => (.done, c.invalidate now answer)
  | .stop =>
    match c.stopping with
    | .idle | .waits _ => (.done, c.stop)
    | .panics => (.panicked, c.stop)
  | .status => (.status c.snapshot.status, c)

/-- Calls one after the other, each at its time. -/
def calls (c : Cache) : List (Nat × Call) → List Reply × Cache
  | [] => ([], c)
  | (now, call) :: rest =>
    let (reply, c) := c.call now call
    let (replies, c) := c.calls rest
    (reply :: replies, c)

end PolicyGuard.Cache
