import PolicyGuard.Cache.Source
import PolicyGuard.Policy.Decision

/-!
What a cache publishes, and how one refresh changes it.

A refresh asks the source, compares the hash of the answer with the published
one, and then either renews the time of the last success or publishes the new
rules. Each of these steps is an operation of its own; `Snapshot.refresh` is the
three in a row.
-/

namespace PolicyGuard.Cache

/-- The published rules, with the hash of their text and the time of the last success. -/
structure Snapshot where
  rules : Option (List Policy.Rule)
  contentHash : String
  lastSuccess : Option Nat
  generation : Nat
  successes : Nat
  deriving DecidableEq, Repr

inductive Outcome where
  | unchanged
  | published (rules : Nat)
  deriving DecidableEq, Repr

namespace Snapshot

def empty : Snapshot :=
  ⟨none, "", none, 0, 0⟩

def isLoaded (s : Snapshot) : Bool :=
  s.rules.isSome

def ruleCount (s : Snapshot) : Nat :=
  (s.rules.map List.length).getD 0

/-- Whether a content is the published one, as far as hashes tell. -/
def isCurrent (s : Snapshot) (hash : String) : Bool :=
  s.contentHash = hash

/-- Takes note that the published content is still the one of the source. -/
def renew (s : Snapshot) (now : Nat) : Snapshot :=
  { s with lastSuccess := some now, successes := s.successes + 1 }

/-- Replaces the published rules by those of a text. -/
def publish (s : Snapshot) (now : Nat) (text : String) : Snapshot where
  rules := some (Policy.read text)
  contentHash := Cache.contentHash text
  lastSuccess := some now
  generation := s.generation + 1
  successes := s.successes + 1

/-- Forgets which content is published, so that the next refresh publishes anew. -/
def forget (s : Snapshot) : Snapshot :=
  { s with contentHash := "" }

/-- One refresh with the answer of the source. A failure changes nothing. -/
def refresh (s : Snapshot) (now : Nat) : Answer → Except FetchError Outcome × Snapshot
  | .error e => (.error e, s)
  | .ok bundle =>
    let text := bundle.combined
    if s.isCurrent (Cache.contentHash text) then (.ok .unchanged, s.renew now)
    else (.ok (.published (Policy.read text).length), s.publish now text)

end Snapshot

end PolicyGuard.Cache
