import PolicyGuard.Event.Basic
import PolicyGuard.Event.Queue
import PolicyGuard.FileTree

/-!
Sinks: where events go.

A sink keeps events in a list, writes them to a log file, passes them on through
a queue, or passes them to several others. The worker of a queue is prompt here:
it takes each message before anything else happens.
-/

namespace PolicyGuard

/-- A sink. Lists and queues go by names, since several sinks may share one. -/
inductive Sink where
  | memory (name : String)
  | log (path : String)
  | failing
  | panicking
  | queued (name : String) (inner : Sink)
  | dispatcher (inner : List Sink)
  deriving Repr

inductive SinkError where
  | io (path : String) (cause : FileError)
  | closed
  deriving DecidableEq, Repr

def SinkError.message : SinkError → String
  | io path cause => "I/O error at " ++ path ++ ": " ++ cause.message
  | closed => "event sink is closed"

/-- What became of an event that was tracked. -/
inductive Tracked where
  | ok
  | failed (e : SinkError)
  | panicked
  deriving DecidableEq, Repr

/-- What the sinks hold. -/
structure SinkStore where
  memories : Table (List Event)
  queues : Table (Queue Event)
  files : FileTree

namespace SinkStore

def ofFiles (files : FileTree) : SinkStore :=
  ⟨[], [], files⟩

def events (s : SinkStore) (name : String) : List Event :=
  (Table.get? name s.memories).getD []

def remember (s : SinkStore) (name : String) (e : Event) : SinkStore :=
  { s with memories := Table.put name (s.events name ++ [e]) s.memories }

def clear (s : SinkStore) (name : String) : SinkStore :=
  { s with memories := Table.put name [] s.memories }

def queue (s : SinkStore) (name : String) : Queue Event :=
  (Table.get? name s.queues).getD .empty

def setQueue (s : SinkStore) (name : String) (q : Queue Event) : SinkStore :=
  { s with queues := Table.put name q s.queues }

/-- Adds the line of an event to a log file. -/
def appendLine (s : SinkStore) (path : String) (e : Event) : Except SinkError SinkStore := do
  let files ← match FileTree.parent? path with
    | none => .ok s.files
    | some parent => (s.files.makeDirectories parent).mapError (SinkError.io parent)
  let files ← (files.append path (FileTree.bytes (e.line ++ "\n"))).mapError (SinkError.io path)
  return { s with files }

/-- The worker of a queue takes all messages, handing events on. -/
def workOff (deliver : Event → SinkStore → Tracked × SinkStore) (name : String) :
    List (Queue.Message Event) → SinkStore → SinkStore
  | [], s => s
  | .flush _ :: rest, s => workOff deliver name rest (s.setQueue name (s.queue name).work)
  | .event e :: rest, s =>
    let s := s.setQueue name (s.queue name).work
    match deliver e s with
    | (.panicked, s) => s.setQueue name (s.queue name).breakDown
    | (_, s) => workOff deliver name rest s

/-- Sends a message and has the worker take what is pending. -/
def sendTo? (s : SinkStore) (deliver : Event → SinkStore → Tracked × SinkStore) (name : String)
    (m : Queue.Message Event) : Option SinkStore := do
  let q ← (s.queue name).send? m
  return workOff deliver name q.pending (s.setQueue name q)

end SinkStore

namespace Sink

mutual

/-- Hands an event to a sink. -/
def track : Sink → Event → SinkStore → Tracked × SinkStore
  | memory name, e, s => (.ok, s.remember name e)
  | log path, e, s =>
    match s.appendLine path e with
    | .ok s => (.ok, s)
    | .error cause => (.failed cause, s)
  | failing, _, s => (.failed .closed, s)
  | panicking, _, s => (.panicked, s)
  | queued name inner, e, s =>
    match s.sendTo? (fun e s => inner.track e s) name (.event e) with
    | some s => (.ok, s)
    | none => (.failed .closed, s)
  | dispatcher inner, e, s => trackAll inner e s

/-- Hands an event to several sinks. A failure of one does not keep it from the others. -/
def trackAll : List Sink → Event → SinkStore → Tracked × SinkStore
  | [], _, s => (.ok, s)
  | sink :: rest, e, s =>
    match sink.track e s with
    | (.panicked, s) => (.panicked, s)
    | (_, s) => trackAll rest e s

end

/-- Hands events to a sink one after another. -/
def trackEach (sink : Sink) : List Event → SinkStore → List Tracked × SinkStore
  | [], s => ([], s)
  | e :: es, s =>
    let (tracked, s) := sink.track e s
    let (rest, s) := sink.trackEach es s
    (tracked :: rest, s)

/-- Waits until a queue has handed on all that was tracked so far; says whether it has. -/
def flush (sink : Sink) (s : SinkStore) : Bool × SinkStore :=
  match sink with
  | queued name inner =>
    let ticket := (s.queue name).acknowledged.length
    match s.sendTo? inner.track name (.flush ticket) with
    | some s => ((s.queue name).acknowledged.contains ticket, s)
    | none => (false, s)
  | _ => (false, s)

end Sink

end PolicyGuard
