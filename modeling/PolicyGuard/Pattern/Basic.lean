import PolicyGuard.Text.Blank
import PolicyGuard.Text.Digit
import PolicyGuard.Text.Folding

/-!
Regular patterns over texts.

* `CharSet.has` is membership in a set of characters;
* `Pattern.ends` lists the places where a match from a place may end;
* `Pattern.occursIn` asks for a match anywhere in a text.
-/

namespace PolicyGuard

/-! ## Sets of characters -/

inductive CharSet where
  | none
  | range (first last : Char)
  | digit
  | blank
  | word
  | complement (s : CharSet)
  | union (s t : CharSet)
  | inter (s t : CharSet)
  /-- All characters that differ from a member in case only. -/
  | folded (unicode : Bool) (s : CharSet)
  deriving DecidableEq, Repr

namespace CharSet

def single (c : Char) : CharSet :=
  range c c

/-- What is in the first set but not in the second. -/
def minus (s t : CharSet) : CharSet :=
  inter s (complement t)

/-- What is in just one of two sets. -/
def oneOf (s t : CharSet) : CharSet :=
  union (minus s t) (minus t s)

def ofRanges (ranges : List (Char × Char)) : CharSet :=
  ranges.foldr (fun r s => union (range r.1 r.2) s) none

def asciiDigit : CharSet :=
  range '0' '9'

def asciiBlank : CharSet :=
  ofRanges [('\t', '\x0d'), (' ', ' ')]

def asciiWord : CharSet :=
  ofRanges [('0', '9'), ('A', 'Z'), ('_', '_'), ('a', 'z')]

/-- The mates of a character; without Unicode only ASCII letters have any. -/
def matesOf (unicode : Bool) (c : Char) : List Char :=
  if unicode then Text.caseMates c else [c, c.toLower, c.toUpper]

def has : CharSet → Char → Bool
  | none, _ => false
  | range first last, c => first ≤ c && c ≤ last
  | digit, c => Text.isDecimalDigit c
  | blank, c => Text.isBlank c
  | word, c => Text.isWord c
  | complement s, c => !s.has c
  | union s t, c => s.has c || t.has c
  | inter s t, c => s.has c && t.has c
  | folded unicode s, c => (matesOf unicode c).any s.has

end CharSet

/-! ## Places and anchors -/

/-- A place in a text: the character before it and all that follows. -/
structure Place where
  before : Option Char
  rest : List Char
  deriving DecidableEq, Repr

namespace Place

def start (text : List Char) : Place :=
  ⟨none, text⟩

def after (p : Place) : Option Char :=
  p.rest.head?

/-- All places from this one to the end of the text. -/
def onwards (before : Option Char) : List Char → List Place
  | [] => [⟨before, []⟩]
  | c :: rest => ⟨before, c :: rest⟩ :: onwards (some c) rest

/-- Without repetitions. Places of one text differ in what follows. -/
def distinct : List Place → List Place
  | [] => []
  | p :: ps =>
    let others := distinct ps
    if others.any fun q => q.rest.length = p.rest.length then others else p :: others

end Place

/-- A condition on a place. -/
inductive Anchor where
  | textStart
  | textEnd
  | lineStart (crlf : Bool)
  | lineEnd (crlf : Bool)
  | boundary (isWord : Bool → Bool → Bool) (unicode : Bool)

namespace Anchor

/-- Whether the character on one side of a place belongs to a word. -/
def isWordSide (unicode : Bool) (c : Option Char) : Bool :=
  c.any (if unicode then CharSet.word else CharSet.asciiWord).has

def holds (a : Anchor) (p : Place) : Bool :=
  match a with
  | textStart => p.before.isNone
  | textEnd => p.rest.isEmpty
  | lineStart false => p.before.isNone || p.before = some '\n'
  | lineStart true =>
    p.before.isNone || p.before = some '\n' || (p.before = some '\x0d' && p.after ≠ some '\n')
  | lineEnd false => p.rest.isEmpty || p.after = some '\n'
  | lineEnd true =>
    p.rest.isEmpty || p.after = some '\x0d' || (p.after = some '\n' && p.before ≠ some '\x0d')
  | boundary test unicode => test (isWordSide unicode p.before) (isWordSide unicode p.after)

end Anchor

/-! ## Patterns -/

inductive Pattern where
  | one (s : CharSet)
  | anchor (a : Anchor)
  | sequence (parts : List Pattern)
  | choice (parts : List Pattern)
  | repeated (p : Pattern) (least : Nat) (most : Option Nat)

namespace Pattern

/-- The places after exactly `n` rounds. -/
def exactly (step : List Place → List Place) : Nat → List Place → List Place
  | 0, ps => ps
  | n + 1, ps => if ps.isEmpty then [] else exactly step n (step ps)

/-- The places after at most `n` rounds. -/
def atMost (step : List Place → List Place) : Nat → List Place → List Place
  | 0, ps => ps
  | n + 1, ps =>
    let next := Place.distinct (ps ++ step ps)
    if next.length = ps.length then ps else atMost step n next

mutual

/-- Where a match that starts at a place may end. -/
def ends : Pattern → Place → List Place
  | one s, p =>
    match p.rest with
    | c :: rest => if s.has c then [⟨some c, rest⟩] else []
    | [] => []
  | anchor a, p => if a.holds p then [p] else []
  | sequence parts, p => endsInTurn parts [p]
  | choice parts, p => endsOfAny parts p
  | repeated q least most, p =>
    let step (ps : List Place) := Place.distinct (ps.flatMap fun p => q.ends p)
    let further := match most with
      | some m => m - least
      | none => p.rest.length + 1
    atMost step further (exactly step least [p])

/-- The ends of one pattern after the other. -/
def endsInTurn : List Pattern → List Place → List Place
  | [], ps => ps
  | q :: parts, ps => endsInTurn parts (Place.distinct (ps.flatMap fun p => q.ends p))

def endsOfAny : List Pattern → Place → List Place
  | [], _ => []
  | q :: parts, p => q.ends p ++ endsOfAny parts p

end

/-- Whether there is a match somewhere in a text. -/
def occursIn (p : Pattern) (text : String) : Bool :=
  (Place.onwards none text.toList).any fun place => !(p.ends place).isEmpty

end Pattern

end PolicyGuard
