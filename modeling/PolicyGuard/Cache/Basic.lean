import PolicyGuard.Cache.Config
import PolicyGuard.Cache.Snapshot
import PolicyGuard.Policy.Subject

/-!
A policy cache: the published rules of a source, refreshed on demand and by
itself, which decides about subjects.

Where nothing is published, or the last success is too long ago, everything is
allowed. Each operation that asks the source takes the answer it would get.
-/

namespace PolicyGuard

structure Cache where
  config : Cache.Config
  endpoint : Option String
  hasSource : Bool
  snapshot : Cache.Snapshot
  /-- When the worker refreshes by itself; `none` once it is gone. -/
  due : Option Nat
  fetches : Nat
  /-- Whether there is a worker to stop, be it gone by itself or not. -/
  isHeld : Bool

namespace Cache

inductive RefreshError where
  | fetch (cause : FetchError)
  | noSource
  | stopped
  deriving DecidableEq, Repr

def FetchError.message : FetchError → String
  | unreachable url => "failed to fetch policies from " ++ url
  | unreadable path cause => "failed to read policy file " ++ path ++ ": " ++ cause.message
  | refused reason => "policy source error: " ++ reason

def RefreshError.message : RefreshError → String
  | fetch cause => cause.message
  | noSource => "policy cache has no source configured"
  | stopped => "policy cache refresh worker is stopped"

/-! ## Life of a cache -/

/-- A cache without a source, which allows everything. -/
def disabled : Cache :=
  ⟨.default, none, false, .empty, none, 0, false⟩

/-- One refresh by the worker. -/
def refresh (c : Cache) (now : Nat) (answer : Answer) : Except FetchError Outcome × Cache :=
  let (outcome, snapshot) := c.snapshot.refresh now answer
  (outcome, { c with snapshot, fetches := c.fetches + 1 })

/-- A new cache, with its first refresh done. The worker lives if it can tell when
the next one is due. -/
def start (config : Config) (endpoint : Option String) (now : Nat) (answer : Answer) : Cache :=
  let c : Cache := ⟨config, endpoint, true, .empty, none, 0, true⟩
  { (c.refresh now answer).2 with due := config.due? now }

/-- A refresh on demand. -/
def refreshNow (c : Cache) (now : Nat) (answer : Answer) : Except RefreshError Outcome × Cache :=
  if !c.hasSource then (.error .noSource, c)
  else if c.due.isNone then (.error .stopped, c)
  else
    let (outcome, c) := c.refresh now answer
    (outcome.mapError .fetch, c)

/-- Forgets the published content, and has the worker publish it anew. -/
def invalidate (c : Cache) (now : Nat) (answer : Answer) : Cache :=
  if !c.hasSource then c
  else
    let c := { c with snapshot := c.snapshot.forget }
    if c.due.isNone then c else (c.refresh now answer).2

/-- What a stop comes to for its caller. -/
inductive Stopping where
  /-- There is no worker, or it was stopped before. -/
  | idle
  /-- The worker is told to end, and awaited so long. -/
  | waits (grace : Nat)
  /-- The worker is told to end, but how long to wait cannot be told. -/
  | panics
  deriving DecidableEq, Repr

def stopping (c : Cache) : Stopping :=
  if c.isHeld then c.config.grace?.elim .panics .waits else .idle

/-- Takes the worker away. That is done before its caller waits, or fails to. -/
def stop (c : Cache) : Cache :=
  { c with due := none, isHeld := false }

/-- The times up to a limit at which a worker refreshes by itself. -/
def dueTimes (due interval limit : Nat) : List Nat :=
  if limit < due then []
  else (List.range ((limit - due) / interval + 1)).map fun i => due + i * interval

/-- The refreshes that the worker does by itself up to a time. -/
def elapse (c : Cache) (limit : Nat) (answer : Answer) : Cache :=
  match c.due with
  | none => c
  | some due =>
    (dueTimes due c.config.interval limit).foldl
      (fun c time => { (c.refresh time answer).2 with due := c.config.due? time }) c

/-- How long a caller waits for the worker. -/
def patience : Nat := 5000

/-- Waits until a generation is published, and says whether it is. -/
def awaitGeneration (c : Cache) (generation now : Nat) (answer : Answer) : Bool × Cache :=
  if generation ≤ c.snapshot.generation then (true, c)
  else if c.due.isNone || patience < c.config.interval then (false, c)
  else
    let c := { (c.refresh now answer).2 with due := c.config.due? now }
    (generation ≤ c.snapshot.generation, c)

/-! ## Decisions -/

def notLoaded : Policy.Verdict :=
  .allow "No policies loaded (fail-open)"

def stale (age tolerance : Nat) : Policy.Verdict :=
  .allow ("Policy cache stale (" ++ toString (ageSeconds age) ++ "s > " ++
    toString (seconds tolerance) ++ "s), fail-open")

/-- Whether the last success is too long ago, and how long. -/
def staleAge? (c : Cache) (now : Nat) : Option (Nat × Nat) := do
  let tolerance ← c.config.tolerance
  let success ← c.snapshot.lastSuccess
  if tolerance < now - success then some (now - success, tolerance) else none

def evaluate (c : Cache) (now : Nat) (s : Policy.Subject) : Policy.Verdict :=
  match c.snapshot.rules with
  | none => notLoaded
  | some rules =>
    match c.staleAge? now with
    | some (age, tolerance) => stale age tolerance
    | none => Policy.decide rules s

/-- The subject of an action that is no request. -/
def actionSubject (kind target : String) : Policy.Subject :=
  .ofRequest ("action://" ++ kind ++ "/" ++ target) kind []

end Cache

end PolicyGuard
