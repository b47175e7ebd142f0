import PolicyGuard.Text.Combining
import PolicyGuard.Text.Composition

/-!
The composed normal form of text: characters are taken apart, marks are put in
the order of their classes, and what composes is composed again.
-/

namespace PolicyGuard.Text

/-! ## Syllables of Hangul -/

/-- The parts of a syllable: a leading consonant, a vowel, and maybe another consonant. -/
def syllableParts? (c : Char) : Option (List Char) :=
  let n := c.toNat
  if 0xAC00 ≤ n && n ≤ 0xD7A3 then
    let i := n - 0xAC00
    let start := [Char.ofNat (0x1100 + i / 588), Char.ofNat (0x1161 + i % 588 / 28)]
    some (if i % 28 = 0 then start else start ++ [Char.ofNat (0x11A7 + i % 28)])
  else none

/-- The syllable of two parts, of which the first may be a syllable without an end. -/
def syllable? (a b : Char) : Option Char :=
  let (m, n) := (a.toNat, b.toNat)
  if 0x1100 ≤ m && m ≤ 0x1112 && 0x1161 ≤ n && n ≤ 0x1175 then
    some (Char.ofNat (0xAC00 + ((m - 0x1100) * 21 + (n - 0x1161)) * 28))
  else if 0xAC00 ≤ m && m ≤ 0xD7A3 && (m - 0xAC00) % 28 = 0 && 0x11A8 ≤ n && n ≤ 0x11C2 then
    some (Char.ofNat (m + (n - 0x11A7)))
  else none

/-! ## Taking apart -/

/-- How often a character can be taken apart. -/
def composedDepth : Nat := 4

/-- A character without its marks, and then the marks. -/
def decomposeChar : Nat → Char → List Char
  | 0, c => [c]
  | fuel + 1, c =>
    match syllableParts? c, decompositions.lookup c, compositions.find? (·.whole = c) with
    | some parts, _, _ => parts
    | none, some parts, _ => parts
    | none, none, some p => decomposeChar fuel p.first ++ [p.second]
    | none, none, none => [c]

/-- Puts a mark behind those before it whose class is not higher; the text before
is given in reverse. -/
def insertMark (c : Char) : List Char → List Char
  | [] => [c]
  | d :: before =>
    if combiningClass c ≠ 0 && combiningClass c < combiningClass d then d :: insertMark c before
    else c :: d :: before

def decompose (cs : List Char) : List Char :=
  ((cs.flatMap (decomposeChar composedDepth)).foldl (fun before c => insertMark c before) []).reverse

/-! ## Composing -/

def compose? (a b : Char) : Option Char :=
  match syllable? a b with
  | some c => some c
  | none => (compositions.find? fun p => p.first = a && p.second = b).map Composition.whole

/-- Composes the text after a character with it. `between`, in reverse, stands behind the
character and did not compose. -/
def composeAfter (c : Char) (between : List Char) : List Char → List Char
  | [] => c :: between.reverse
  | d :: rest =>
    let isBlocked := match between with
      | [] => false
      | last :: _ => combiningClass d ≤ combiningClass last
    match (if isBlocked then none else compose? c d) with
    | some whole => composeAfter whole between rest
    | none =>
      if combiningClass d = 0 then c :: between.reverse ++ composeAfter d [] rest
      else composeAfter c (d :: between) rest

/-- Composes a text, whose marks at the front stay as they are. -/
def compose (cs : List Char) : List Char :=
  let front := cs.takeWhile (combiningClass · ≠ 0)
  match cs.dropWhile (combiningClass · ≠ 0) with
  | [] => front
  | c :: rest => front ++ composeAfter c [] rest

/-- The composed normal form. Text in ASCII is its own. -/
def normalForm (cs : List Char) : List Char :=
  if cs.all (·.toNat < 128) then cs else compose (decompose cs)

end PolicyGuard.Text
