import PolicyGuard.Text.Lowercase

/-!
The origin that a connection pool is bound to, and the full addresses of what is
requested from it.
-/

namespace PolicyGuard

structure Origin where
  scheme : String
  host : String
  port : Option Nat
  deriving DecidableEq, Repr

namespace Origin

/-- The scheme of a full address: anything but `https` counts as `http`. -/
def fullScheme (o : Origin) : String :=
  if Text.sameAscii o.scheme "https" then "https" else "http"

/-- The port in a full address, which leaves out the usual ones. -/
def portText (o : Origin) : String :=
  match o.port with
  | some port => if port ≠ 80 && port ≠ 443 then ":" ++ toString port else ""
  | none => ""

/-- The full address of what is requested by `url`. One that starts with `http` is full. -/
def fullUrl (o : Origin) (url : String) : String :=
  if "http".toList.isPrefixOf url.toList then url
  else o.fullScheme ++ "://" ++ o.host ++ o.portText ++ url

end Origin

end PolicyGuard
