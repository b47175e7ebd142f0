import PolicyGuard.Text.Lowercase

/-!
Outbound requests, their responses, and what can keep one from the other.
-/

namespace PolicyGuard

structure Request where
  method : String
  url : String
  headers : List (String × String)
  body : List UInt8
  deriving DecidableEq, Repr

/-- A request without headers and body, its method in upper case. -/
def Request.new (method url : String) : Request :=
  ⟨Text.upperAscii method, url, [], []⟩

structure Response where
  status : Nat
  headers : List (String × String)
  body : List UInt8
  deriving DecidableEq, Repr

/-- Whether the status is one of the 200s. -/
def Response.isSuccess (r : Response) : Bool :=
  200 ≤ r.status && r.status < 300

/-- A request that policy forbids. -/
structure Violation where
  action : String
  target : String
  reason : String
  policyId : Option String
  deriving DecidableEq, Repr

def Violation.message (v : Violation) : String :=
  "Policy violation [" ++ v.action ++ "] " ++ v.target ++ ": " ++ v.reason

inductive SendError where
  | blocked (v : Violation)
  | transport (cause : String)
  deriving DecidableEq, Repr

namespace SendError

def message : SendError → String
  | blocked v => v.message
  | transport cause => "transport error: " ++ cause

def isBlocked : SendError → Bool
  | blocked _ => true
  | transport _ => false

end SendError

end PolicyGuard
