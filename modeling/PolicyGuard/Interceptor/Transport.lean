import PolicyGuard.Http.Origin
import PolicyGuard.Interceptor.Basic

/-!
Sending requests through interceptors.

A transport is a backend, or another transport that an interceptor stands before.
`Network.mediate` is the step of one interceptor around whatever it forwards to.
-/

namespace PolicyGuard

inductive Transport where
  | backend (name : String)
  | intercepted (name : String) (inner : Transport)
  deriving DecidableEq, Repr

/-- The ways to send a request. A pool is bound to an origin. -/
inductive TransportKind where
  | sync
  | async
  | pool
  deriving DecidableEq, Repr

/-- What is at the end of a transport says to a request. It may judge requests too. -/
inductive Backend.Answer where
  | ok (response : Response)
  | error (cause : String)
  | blocked (v : Violation)
  deriving DecidableEq, Repr

def Backend.Answer.outcome : Backend.Answer → Except SendError Response
  | ok response => .ok response
  | error cause => .error (.transport cause)
  | blocked v => .error (.blocked v)

/-- What is at the end of a transport: it gives each request the same answer. -/
structure Backend where
  answer : Backend.Answer
  origin : Origin
  received : List Request

/-- Interceptors and backends by name, with the sinks and the clock. -/
structure Network where
  interceptors : Table Interceptor
  backends : Table Backend
  sinks : SinkStore
  now : Nat
  time : Timestamp
  /-- Every event of an interceptor, in order. -/
  emitted : List Event

namespace Network

def interceptor? (net : Network) (name : String) : Option Interceptor :=
  Table.get? name net.interceptors

def setInterceptor (net : Network) (name : String) (i : Interceptor) : Network :=
  { net with interceptors := Table.put name i net.interceptors }

/-- Hands an event to a sink. A sink that fails changes nothing for the request. -/
def emit (net : Network) (sink : Option Sink) (c : Event.Content) : Network :=
  match sink with
  | none => net
  | some sink =>
    let e : Event := ⟨.ofNat net.emitted.length, c.kind, c.name, c.payload, c.metadata, net.time⟩
    { net with sinks := (sink.track e net.sinks).2, emitted := net.emitted ++ [e] }

/-- A request reaches a backend. -/
def call (net : Network) (name : String) (r : Request) : Except SendError Response × Network :=
  match Table.get? name net.backends with
  | none => (.error (.transport "no such backend"), net)
  | some b =>
    (b.answer.outcome, { net with
      backends := Table.put name { b with received := b.received ++ [r] } net.backends })

/-- Counts a request that an interceptor has forwarded, and reports it. -/
def record (net : Network) (name : String) (method url : String)
    (outcome : Except SendError Response) (duration : Binary64) (allowed : Bool) : Network :=
  match net.interceptor? name with
  | none => net
  | some i =>
    let net := net.setInterceptor name { i with interceptions := i.interceptions + 1 }
    net.emit i.sink (i.forwardEvent method url outcome duration allowed)

/-- What an interceptor does with a request for `url`, which takes `duration` if it is
forwarded. -/
def mediate (net : Network) (name url : String) (r : Request) (duration : Binary64)
    (forward : Network → Except SendError Response × Network) :
    Except SendError Response × Network :=
  match net.interceptor? name with
  | none => forward net
  | some i =>
    let forwardAs (allowed : Bool) (net : Network) :=
      let (outcome, net) := forward net
      (outcome, net.record name r.method url outcome duration allowed)
    match i.review net.now r.method url r.headers with
    | .excluded => forward net
    | .allowed => forwardAs true net
    | .reported v => forwardAs false (net.emit i.sink (i.violationEvent r.method url v))
    | .blocked v => (.error (.blocked v), net.emit i.sink (i.violationEvent r.method url v))

/-- The origin that a transport is bound to when it serves as a pool. -/
def origin? (net : Network) : Transport → Option Origin
  | .backend name => (Table.get? name net.backends).map Backend.origin
  | .intercepted _ inner => net.origin? inner

/-- The address by which a request is judged: a pool completes it. -/
def judgedUrl (net : Network) (kind : TransportKind) (t : Transport) (url : String) : String :=
  match kind, net.origin? t with
  | .pool, some origin => origin.fullUrl url
  | _, _ => url

/-- Sends a request. How long each transport takes about it, in milliseconds, is not up to the
network. -/
def send (net : Network) (kind : TransportKind) (t : Transport) (r : Request)
    (took : Transport → Binary64 := fun _ => .finite false 0) :
    Except SendError Response × Network :=
  match t with
  | .backend name => net.call name r
  | .intercepted name inner =>
    net.mediate name (net.judgedUrl kind inner r.url) r (took inner) fun net =>
      net.send kind inner r took

end Network

end PolicyGuard
