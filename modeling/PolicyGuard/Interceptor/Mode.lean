import PolicyGuard.Text.Blank
import PolicyGuard.Text.Lowercase

/-!
Enforcement modes: what happens to a request that policy forbids.
-/

namespace PolicyGuard

inductive EnforcementMode where
  | block
  | warn
  | log
  deriving DecidableEq, Repr

namespace EnforcementMode

def name : EnforcementMode → String
  | block => "block"
  | warn => "warn"
  | log => "log"

def title : EnforcementMode → String
  | block => "Block"
  | warn => "Warn"
  | log => "Log"

/-- The mode of a name in any case, with blanks around it. -/
def read? (s : String) : Option EnforcementMode :=
  match Text.lowerAscii (Text.trim s) with
  | "block" => some block
  | "warn" => some warn
  | "log" => some log
  | _ => none

/-- What to say of a text that names no mode. -/
def invalidMessage (s : String) : String :=
  "invalid enforcement mode '" ++ s ++ "': expected one of block, warn, log"

end EnforcementMode

end PolicyGuard
