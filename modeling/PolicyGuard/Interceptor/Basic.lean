import PolicyGuard.Cache.Basic
import PolicyGuard.Event.Sink
import PolicyGuard.Http.Message
import PolicyGuard.Interceptor.Mode
import PolicyGuard.Pattern.Escape
import PolicyGuard.Pattern.Read

/-!
Interceptors: they judge requests before these are sent.

`Interceptor.review` says what becomes of a request. An excluded one is not
judged at all; a forbidden one is blocked, or only reported, as the mode says.
-/

namespace PolicyGuard

/-- Which request headers policy gets to see. -/
inductive HeaderCapture where
  | all
  | only (names : List String)
  deriving DecidableEq, Repr

namespace HeaderCapture

def captures : HeaderCapture → String → Bool
  | all, _ => true
  | only names, name => names.any (Text.sameAscii · name)

/-- The headers that are captured, in order. -/
def select (c : HeaderCapture) (headers : List (String × String)) : List (String × String) :=
  headers.filter fun h => c.captures h.1

end HeaderCapture

structure Interceptor where
  mode : EnforcementMode
  cache : Option Cache
  sink : Option Sink
  exclusions : List Pattern
  capture : HeaderCapture
  /-- How many requests it has judged and forwarded. -/
  interceptions : Nat

/-- What becomes of a request. -/
inductive Admission where
  | excluded
  | allowed
  /-- Forbidden, and forwarded all the same. -/
  | reported (v : Violation)
  | blocked (v : Violation)
  deriving DecidableEq, Repr

namespace Interceptor

/-! ## Making one -/

/-- The exclusions of a list of patterns; the error is the first that is none. -/
def readExclusions : List String → Except String (List Pattern)
  | [] => .ok []
  | text :: rest =>
    match Pattern.read? text with
    | some p => (readExclusions rest).map (p :: ·)
    | none => .error text

/-- The pattern of what begins as the address that the policies come from. -/
def endpointPatterns (cache : Option Cache) : List String :=
  match cache.bind Cache.endpoint with
  | some endpoint => ["^" ++ Pattern.escape endpoint]
  | none => []

/-- An interceptor with exclusions by pattern, and one more for the endpoint of its cache; the
error is the first that is none. -/
def new (mode : EnforcementMode) (cache : Option Cache) (sink : Option Sink)
    (patterns : List String) (capture : HeaderCapture) : Except String Interceptor :=
  (readExclusions (patterns ++ endpointPatterns cache)).map fun exclusions =>
    ⟨mode, cache, sink, exclusions, capture, 0⟩

/-! ## Judging -/

def isExcluded (i : Interceptor) (url : String) : Bool :=
  i.exclusions.any (·.occursIn url)

/-- What policy says about a request, of which it sees the captured headers. -/
def judge (i : Interceptor) (now : Nat) (method url : String)
    (headers : List (String × String)) : Policy.Verdict :=
  match i.cache with
  | none => .allow "No policy cache configured"
  | some cache => cache.evaluate now (.ofRequest url method (i.capture.select headers))

def violation (method url : String) (verdict : Policy.Verdict) : Violation where
  action := "http"
  target := method ++ " " ++ url
  reason := verdict.reason
  policyId := verdict.policyId

def review (i : Interceptor) (now : Nat) (method url : String)
    (headers : List (String × String)) : Admission :=
  if i.isExcluded url then .excluded
  else
    let verdict := i.judge now method url headers
    if verdict.isAllowed then .allowed
    else
      match i.mode with
      | .block => .blocked (violation method url verdict)
      | .warn | .log => .reported (violation method url verdict)

/-! ## Events -/

/-- The event of a request that policy forbids. -/
def violationEvent (i : Interceptor) (method url : String) (v : Violation) : Event.Content where
  kind := .policyViolation
  name := "policy_violation_" ++ Text.lowerAscii method
  payload := Table.ofList [("method", .string method), ("url", .string url),
    ("reason", .string v.reason)]
  metadata := Table.ofList [("enforcement", .string i.mode.name),
    ("policy_id", (v.policyId.map Json.string).getD .null)]

/-- The event of a request that was forwarded, with its outcome and how long it took. -/
def forwardEvent (i : Interceptor) (method url : String) (outcome : Except SendError Response)
    (duration : Binary64) (allowed : Bool) : Event.Content where
  kind := .interception
  name := "http_" ++ Text.lowerAscii method
  payload := Table.ofList [("method", .string method), ("url", .string url),
    ("status_code", match outcome with
      | .ok response => .ofNat response.status
      | .error _ => .null),
    ("duration_ms", .number (.float duration))]
  metadata := Table.ofList ([("allowed", .bool allowed), ("enforcement", .string i.mode.name)] ++
    match outcome with
    | .ok _ => []
    | .error e => [("error", .string e.message)])

/-- One line about an interceptor. -/
def summary (i : Interceptor) (installed : Bool) : String :=
  "Interceptor \x7b enforcement: " ++ i.mode.title ++ ", installed: " ++
    (if installed then "true" else "false") ++ ", events: " ++ toString i.interceptions ++ " \x7d"

end Interceptor

end PolicyGuard
