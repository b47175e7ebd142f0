import PolicyGuard.Interceptor.Registry

/-!
Scopes of installations.

Who enters a scope installs an interceptor for the time of the scope. When the scope is left, the
interceptor is uninstalled if it is the installed one. A scope knows its interceptor but not its
installation; the installations are numbered here to tell which one a scope stands for.
-/

namespace PolicyGuard

/-- A scope that was entered, with the number of the installation that was made for it. -/
structure Scope where
  owner : String
  number : Nat
  deriving DecidableEq, Repr

/-- A registry, with its installations counted. -/
structure Scoped where
  registry : Registry
  /-- The scopes that were entered and not left yet. -/
  scopes : List Scope
  /-- How many installations there have been. -/
  made : Nat
  /-- The number of the one that the registry has. -/
  current : Option Nat
  deriving DecidableEq, Repr

namespace Scoped

def start : Scoped :=
  ⟨.empty, [], 0, none⟩

/-- Goes on with a registry. If it was free and no longer is, there is a new installation. -/
def follow (s : Scoped) (after : Registry) : Scoped :=
  if !after.isInstalled then { s with registry := after, current := none }
  else if s.registry.isInstalled then { s with registry := after }
  else { s with registry := after, made := s.made + 1, current := some s.made }

inductive Step where
  | act (a : Registry.Action)
  | enter (owner : String)
  | leave (scope : Scope)
  deriving DecidableEq, Repr

def leave (s : Scoped) (scope : Scope) : Scoped :=
  { s.follow (s.registry.release scope.owner) with scopes := s.scopes.erase scope }

/-- Installs an interceptor. There is a scope only if that is accepted. -/
def enter (s : Scoped) (owner : String) : Scoped :=
  match s.registry.engage owner with
  | (.ok (), after) => { s.follow after with scopes := ⟨owner, s.made⟩ :: s.scopes }
  | (.error _, after) => s.follow after

/-- What becomes of a step. Only a scope that was entered can be left. -/
def step (s : Scoped) : Step → Scoped
  | .act a => s.follow (s.registry.act a).2
  | .enter owner => s.enter owner
  | .leave scope => if scope ∈ s.scopes then s.leave scope else s

def run (s : Scoped) (steps : List Step) : Scoped :=
  steps.foldl step s

end Scoped

end PolicyGuard
