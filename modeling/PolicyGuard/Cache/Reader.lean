import PolicyGuard.Cache.Basic
import PolicyGuard.Cache.Worker

/-!
Readers beside the refresh worker of a cache.

A reader looks at the snapshot once, in one piece. A status is such a look; an evaluation
answers some time after its look, from what it copied, and the worker and its callers may act in
between. `Readers.act?` says what each move does, and `Readers.run?` follows one interleaving.
-/

namespace PolicyGuard.Cache

/-- What an evaluation copies of a snapshot. -/
structure Copy where
  rules : Option (List Policy.Rule)
  lastSuccess : Option Nat
  deriving DecidableEq, Repr

def Snapshot.copy (s : Snapshot) : Copy :=
  ⟨s.rules, s.lastSuccess⟩

/-- What an evaluation answers from its copy. -/
def Copy.verdict (c : Copy) (config : Config) (now : Nat) (s : Policy.Subject) : Policy.Verdict :=
  match c.rules with
  | none => notLoaded
  | some rules =>
    match config.tolerance, c.lastSuccess with
    | some tolerance, some success =>
      if tolerance < now - success then stale (now - success) tolerance
      else Policy.decide rules s
    | _, _ => Policy.decide rules s

/-- An evaluation in one piece copies and answers at once. -/
theorem evaluate_eq_verdict (c : Cache) (now : Nat) (s : Policy.Subject) :
    c.evaluate now s = c.snapshot.copy.verdict c.config now s := by
  unfold evaluate Copy.verdict staleAge? Snapshot.copy
  cases c.snapshot.rules with
  | none => rfl
  | some rules =>
    cases c.config.tolerance with
    | none => rfl
    | some tolerance =>
      cases c.snapshot.lastSuccess with
      | none => rfl
      | some success => by_cases h : tolerance < now - success <;> simp [h]

/-- A refresh that ended well. -/
structure Success where
  /-- The text that it fetched. -/
  text : String
  time : Nat
  /-- The generation that it published. One that found its text published has none. -/
  generation? : Option Nat
  deriving DecidableEq, Repr

/-- What the refreshes of a worker did, however they are seen. -/
structure History where
  /-- The text that the refresh in progress has fetched. -/
  fetched : Option String
  successes : List Success

namespace History

def empty : History :=
  ⟨none, []⟩

/-- The generation that a refresh publishes if it is about to publish. -/
def generation? (w : Worker) : Option Nat :=
  match w.stage with
  | .publishing _ _ => some (w.snapshot.generation + 1)
  | _ => none

/-- Takes note of an action of a worker. -/
def enter (h : History) (w : Worker) : Worker.Action → History
  | .fetched (.ok bundle) => { h with fetched := some bundle.combined }
  | .finish now =>
    match h.fetched with
    | some text => ⟨none, h.successes ++ [⟨text, now, generation? w⟩]⟩
    | none => h
  | _ => h

end History

/-- A look at the snapshot, with the successes up to then. -/
structure Sight where
  snapshot : Snapshot
  past : List Success

/-- The answer of an evaluation. -/
structure Judgement where
  ticket : Nat
  sight : Sight
  now : Nat
  subject : Policy.Subject
  verdict : Policy.Verdict

/-- What may happen next. Evaluations go by tickets. -/
inductive Move where
  | act (a : Worker.Action)
  | status
  | look (ticket : Nat)
  | answer (ticket now : Nat) (subject : Policy.Subject)

structure Readers where
  config : Config
  worker : Worker
  history : History
  /-- The evaluations that have looked and not answered yet. -/
  waiting : List (Nat × Sight)
  /-- Every look, in order. -/
  sights : List Sight
  /-- Every answer, in order. -/
  judgements : List Judgement

namespace Readers

/-- A new cache, before its first refresh. -/
def start (config : Config) : Readers :=
  ⟨config, .start .empty, .empty, [], [], []⟩

/-- What a look finds. -/
def sight (r : Readers) : Sight :=
  ⟨r.worker.snapshot, r.history.successes⟩

/-- The readers after a move, where the move is possible. -/
def act? (r : Readers) : Move → Option Readers
  | .act a => (r.worker.act? a).map fun w => { r with worker := w, history := r.history.enter r.worker a }
  | .status => some { r with sights := r.sights ++ [r.sight] }
  | .look ticket =>
    some { r with sights := r.sights ++ [r.sight], waiting := (ticket, r.sight) :: r.waiting }
  | .answer ticket now subject =>
    (r.waiting.lookup ticket).map fun sight => { r with
      waiting := r.waiting.filter (·.1 ≠ ticket)
      judgements := r.judgements ++
        [⟨ticket, sight, now, subject, sight.snapshot.copy.verdict r.config now subject⟩] }

/-- The readers after some moves, where they are possible. -/
def run? (r : Readers) : List Move → Option Readers
  | [] => some r
  | m :: rest => (r.act? m).bind fun r => run? r rest

end Readers

end PolicyGuard.Cache
