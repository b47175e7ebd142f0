/-!
Scanning a text from left to right. `findAll` collects the matches of a pattern
that do not overlap, each taken as early as possible.
-/

namespace PolicyGuard.Text

/-- What follows `word`, where the text starts with it. -/
def after? : List Char → List Char → Option (List Char)
  | [], cs => some cs
  | _ :: _, [] => none
  | w :: ws, c :: cs => if w = c then after? ws cs else none

/-- Whether `part` occurs somewhere in a text. -/
def occursIn (part : List Char) : List Char → Bool
  | [] => part.isEmpty
  | c :: cs => part.isPrefixOf (c :: cs) || occursIn part cs

/-- The matches of `match?`, which gets the character before and says what it
found and how many characters that takes; `skip` characters belong to the last match. -/
def findFrom {α : Type} (match? : Option Char → List Char → Option (α × Nat)) :
    Nat → Option Char → List Char → List α
  | _, _, [] => []
  | skip + 1, _, c :: cs => findFrom match? skip (some c) cs
  | 0, before, c :: cs =>
    match match? before (c :: cs) with
    | some (found, length) => found :: findFrom match? (length - 1) (some c) cs
    | none => findFrom match? 0 (some c) cs

def findAll {α : Type} (match? : Option Char → List Char → Option (α × Nat))
    (text : List Char) : List α :=
  findFrom match? 0 none text

/-- The lines of a text without their ends; a last line that is empty does not count. -/
def lines (cs : List Char) : List (List Char) :=
  let pieces := cs.splitOn '\n'
  if pieces.getLast? = some [] then pieces.dropLast else pieces

end PolicyGuard.Text
