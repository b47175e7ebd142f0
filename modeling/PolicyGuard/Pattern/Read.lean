import PolicyGuard.Number.Decimal
import PolicyGuard.Pattern.Class

/-!
Reading the text of a pattern.

The syntax is that of regular expressions without look-around and without
references to groups. A pattern that would grow too large is refused.
-/

namespace PolicyGuard.Pattern

/-! ## Items -/

/-- The pieces that the text of a pattern is made of. -/
inductive Item where
  | piece (p : Pattern)
  | flags (f : Flags)
  | openGroup (name : Option (List Char)) (f : Flags)
  | closeGroup
  | bar
  | times (least : Nat) (most : Option Nat)

/-- Switches a flag. The `U` flag changes no match, only its extent. -/
def Flags.set? (f : Flags) (c : Char) (on : Bool) : Option Flags :=
  match c with
  | 'i' => some { f with ignoreCase := on }
  | 'm' => some { f with multiLine := on }
  | 's' => some { f with dotAll := on }
  | 'u' => some { f with unicode := on }
  | 'R' => some { f with crlf := on }
  | 'x' => some { f with verbose := on }
  | 'U' => some f
  | _ => none

/-- Switches the flags of a list, of which those after a hyphen go off. -/
def Flags.change? (f : Flags) : Bool → List Char → Option Flags
  | _, [] => some f
  | on, '-' :: rest => if on then f.change? false rest else none
  | on, c :: rest => do (← f.set? c on).change? on rest

/-- Whether no flag comes twice, and no hyphen at the end. -/
def areFlags (cs : List Char) : Bool :=
  cs.Nodup && cs.getLast? ≠ some '-'

def isNameStart (c : Char) : Bool :=
  c = '_' || (Text.isWord c && !Text.isDecimalDigit c)

def isNamePart (c : Char) : Bool :=
  Text.isWord c || c = '.' || c = '[' || c = ']'

/-- A group name and what follows its end. -/
def readName? (f : Flags) (cs : List Char) : Option (Item × List Char) :=
  let name := cs.takeWhile (· ≠ '>')
  match name, cs.dropWhile (· ≠ '>') with
  | first :: others, _ :: rest =>
    if isNameStart first && others.all isNamePart then some (.openGroup (some name) f, rest)
    else none
  | _, _ => none

/-- What follows an opening parenthesis. -/
def readGroup? (f : Flags) (cs : List Char) : Option (Item × List Char) :=
  match f.skip cs with
  | '?' :: 'P' :: '<' :: rest => readName? f rest
  | '?' :: '<' :: rest =>
    if rest.head? = some '=' || rest.head? = some '!' then none else readName? f rest
  | '?' :: rest =>
    let switches := rest.takeWhile fun c => c ≠ ':' && c ≠ ')'
    match rest.dropWhile fun c => c ≠ ':' && c ≠ ')' with
    | ending :: tail => do
      let changed ← if areFlags switches then f.change? true switches else none
      if ending = ':' then return (.openGroup none changed, tail)
      else if switches.isEmpty then none
      else return (.flags changed, tail)
    | [] => none
  | rest => some (.openGroup none f, rest)

/-- A number between blanks. -/
def readCount? (cs : List Char) : Option (Nat × List Char) :=
  let cs := Text.skipBlanks cs
  let digits := cs.takeWhile Char.isDigit
  let n := digitsValue digits
  if digits.isEmpty || Nat.pow 2 32 ≤ n then none
  else some (n, Text.skipBlanks (cs.dropWhile Char.isDigit))

/-- Skips the mark of a repetition that takes as little as it can. -/
def skipLazy : List Char → List Char
  | '?' :: rest => rest
  | cs => cs

/-- What follows the opening brace of a repetition. -/
def readTimes? (f : Flags) (cs : List Char) : Option (Item × List Char) := do
  let (least, rest) ← readCount? cs
  let (most, rest) ← match rest with
    | ',' :: tail =>
      match f.skip tail with
      | '}' :: tail => some (none, '}' :: tail)
      | tail => (readCount? tail).map fun p => (some p.1, p.2)
    | rest => some (some least, rest)
  match f.skip rest with
  | '}' :: tail =>
    if most.all (least ≤ ·) then return (.times least most, skipLazy (f.skip tail)) else none
  | _ => none

/-- The pattern of any character but those that end a line. -/
def dot? (f : Flags) : Option Pattern :=
  if !f.unicode then none
  else if f.dotAll then some (.one (.complement .none))
  else if f.crlf then some (.one (.complement (.union (.single '\n') (.single '\x0d'))))
  else some (.one (.complement (.single '\n')))

/-- A character that stands for itself. -/
def literal? (f : Flags) (c : Char) : Option Pattern :=
  if !f.unicode && 128 ≤ c.val then none else some (.one (caseSet f (.single c)))

def escapePattern? (f : Flags) : Escape → Option Pattern
  | .char c => literal? f c
  | .set s => some (.one s)
  | .anchor a => some (.anchor a)

/-- The first item of a text. -/
def readItem? (f : Flags) : List Char → Option (Item × List Char)
  | [] => none
  | c :: rest =>
    match c with
    | '(' => readGroup? f rest
    | ')' => some (.closeGroup, rest)
    | '|' => some (.bar, rest)
    | '[' => (readClass? f rest).map fun p => (.piece (.one p.1), p.2)
    | '?' => some (.times 0 (some 1), skipLazy rest)
    | '*' => some (.times 0 none, skipLazy rest)
    | '+' => some (.times 1 none, skipLazy rest)
    | '{' => readTimes? f (f.skip rest)
    | '.' => (dot? f).map (.piece ·, rest)
    | '^' => some (.piece (.anchor (if f.multiLine then .lineStart f.crlf else .textStart)), rest)
    | '$' => some (.piece (.anchor (if f.multiLine then .lineEnd f.crlf else .textEnd)), rest)
    | '\\' => do
      let (e, rest) ← readEscape? f rest
      return (.piece (← escapePattern? f e), rest)
    | _ => (literal? f c).map (.piece ·, rest)

/-! ## Groups -/

/-- A group that is open: the branches before the current one, and the pieces of
that, both backwards. A change of flags counts as a piece without a pattern. -/
structure Group where
  flags : Flags
  branches : List Pattern
  pieces : List (Option Pattern)

namespace Group

def new (f : Flags) : Group :=
  ⟨f, [], []⟩

def branch (g : Group) : Pattern :=
  .sequence (g.pieces.reverse.filterMap id)

def pattern (g : Group) : Pattern :=
  .choice (g.branch :: g.branches).reverse

def add (g : Group) (p : Option Pattern) : Group :=
  { g with pieces := p :: g.pieces }

end Group

/-- Groups may be nested this deep. -/
def depthLimit : Nat := 250

/-- Reads on inside of a group, with the names so far and the groups around it. -/
def readFrom? : Nat → List (List Char) → Group → List Group → List Char → Option Pattern
  | 0, _, _, _, _ => none
  | n + 1, names, g, outer, cs =>
    match g.flags.skip cs with
    | [] => if outer.isEmpty then some g.pattern else none
    | cs => do
      let (item, rest) ← readItem? g.flags cs
      match item with
      | .piece p => readFrom? n names (g.add (some p)) outer rest
      | .flags f => readFrom? n names { g.add none with flags := f } outer rest
      | .openGroup name f =>
        if depthLimit ≤ outer.length + 1 || name.any names.contains then none
        else readFrom? n (name.toList ++ names) (.new f) (g :: outer) rest
      | .closeGroup =>
        match outer with
        | [] => none
        | around :: outer => readFrom? n names (around.add (some g.pattern)) outer rest
      | .bar =>
        readFrom? n names { g with branches := g.branch :: g.branches, pieces := [] } outer rest
      | .times least most =>
        match g.pieces with
        | some p :: pieces =>
          readFrom? n names { g with pieces := some (.repeated p least most) :: pieces } outer rest
        | _ => none

/-! ## Size -/

/-- About how many states a set of characters takes. -/
def setWeight (s : CharSet) : Nat :=
  if s.has '\u0394' then 400 else 1

mutual

/-- About how many states a pattern takes once repetitions are written out. -/
def weight : Pattern → Nat
  | one s => setWeight s
  | anchor _ => 1
  | sequence parts => weightOfAll parts
  | choice parts => 1 + weightOfAll parts
  | repeated p least most =>
    match most with
    | some m => 1 + p.weight * max m 1
    | none => 1 + p.weight * max least 1

def weightOfAll : List Pattern → Nat
  | [] => 0
  | p :: rest => p.weight + weightOfAll rest

end

def weightLimit : Nat := 300000

/-- The pattern that a text writes. -/
def read? (text : String) : Option Pattern := do
  let cs := text.toList
  let p ← readFrom? (cs.length + 1) [] (.new .initial) [] cs
  if p.weight ≤ weightLimit then return p else none

end PolicyGuard.Pattern
