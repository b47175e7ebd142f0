import PolicyGuard.Cache.Operation

/-!
A plain cache: it remembers the text of the last successful fetch and its time,
and reads that text anew for each decision.
-/

namespace PolicyGuard.Cache

structure Plain where
  config : Config
  isLive : Bool
  last : Option (String × Nat)
  now : Nat

namespace Plain

/-- Takes note of an answer. -/
def note (p : Plain) (answer : Answer) : Plain :=
  match answer with
  | .ok bundle => { p with last := some (bundle.combined, p.now) }
  | .error _ => p

def apply (p : Plain) : Operation → Plain
  | .refresh answer | .invalidate answer => if p.isLive then p.note answer else p
  | .forget => p
  | .takeUp answer => p.note answer
  | .work answer =>
    { p.note answer with isLive := p.isLive && (p.config.due? p.now).isSome }
  | .stop => { p with isLive := false }
  | .advance span => { p with now := p.now + span }

def run (p : Plain) (operations : List Operation) : Plain :=
  operations.foldl apply p

/-- Without a tolerance, or with a tolerance of zero, nothing is ever too old. -/
def evaluate (p : Plain) (s : Policy.Subject) : Policy.Verdict :=
  match p.last with
  | none => notLoaded
  | some (text, time) =>
    match p.config.staleTolerance with
    | none | some 0 => Policy.decide (Policy.read text) s
    | some tolerance =>
      if tolerance < p.now - time then stale (p.now - time) tolerance
      else Policy.decide (Policy.read text) s

/-- A plain cache that is as new as a cache made with its first answer. -/
def start (config : Config) (now : Nat) (answer : Answer) : Plain :=
  note ⟨config, (config.due? now).isSome, none, now⟩ answer

end Plain

end PolicyGuard.Cache
