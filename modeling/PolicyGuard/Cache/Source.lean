import PolicyGuard.Cache.Bundle

/-!
Where policies come from: a file, a control plane, or a caller that gives each
answer itself.

There is no network here, so a control plane never answers.
-/

namespace PolicyGuard.Cache

inductive FetchError where
  | unreachable (url : String)
  | unreadable (path : String) (cause : FileError)
  | refused (reason : String)
  deriving DecidableEq, Repr

/-- What a source answers when it is asked. -/
abbrev Answer := Except FetchError Bundle

namespace ControlPlane

/-- The address of a control plane, without slashes at its end. -/
def baseUrl (address : String) : String :=
  String.ofList (address.toList.reverse.dropWhile (· = '/')).reverse

/-- Where a control plane keeps the policies. -/
def policyUrl (address : String) : String :=
  baseUrl address ++ "/api/v1/policies/cedar"

end ControlPlane

inductive Source where
  | file (path : String)
  | controlPlane (address : String)
  | given (answer : Answer) (endpoint : Option String)

namespace Source

/-- The address whose requests no policy applies to. -/
def endpoint : Source → Option String
  | file _ => none
  | controlPlane address => some (ControlPlane.baseUrl address)
  | given _ endpoint => endpoint

def fetch (files : FileTree) : Source → Answer
  | file path =>
    match files.readText path with
    | .ok text => .ok (.ofText text)
    | .error cause => .error (.unreadable path cause)
  | controlPlane address => .error (.unreachable (ControlPlane.policyUrl address))
  | given answer _ => answer

end Source

/-- An answer as a value: a policy text, an object with an `error`, or a bundle. -/
def answerOfJson (j : Json) : Answer :=
  match j, j.get? "error" with
  | .string policy, _ => .ok (.ofText policy)
  | _, some (.string reason) => .error (.refused reason)
  | _, _ =>
    match Bundle.read? j.document with
    | some b => .ok b
    | none => .error (.refused "bad bundle")

end PolicyGuard.Cache
