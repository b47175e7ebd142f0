import PolicyGuard.FileTree
import PolicyGuard.Policy.Statement

/-!
Policies from files.
-/

namespace PolicyGuard.Policy

/-- Why a policy file gave no policy. -/
structure LoadError where
  path : String
  cause : FileError
  deriving DecidableEq, Repr

def LoadError.message (e : LoadError) : String :=
  "failed to read policy file " ++ e.path ++ ": " ++ e.cause.message

def load (files : FileTree) (path : String) : Except LoadError (List Rule) :=
  match files.readText path with
  | .ok text => .ok (read text)
  | .error cause => .error ⟨path, cause⟩

end PolicyGuard.Policy
