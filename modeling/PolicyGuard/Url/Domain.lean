import PolicyGuard.Text.Normal
import PolicyGuard.Url.Direction
import PolicyGuard.Url.DomainMap
import PolicyGuard.Url.Joining
import PolicyGuard.Url.Punycode
import PolicyGuard.Text.Scan

/-!
Domain names in ASCII. Letters lose their case, look-alikes become the plain
characters, and labels with other characters are written in punycode.
-/

namespace PolicyGuard.Url

/-- The characters of ASCII that no domain has. -/
def isForbiddenInDomain (c : Char) : Bool :=
  c.toNat ≤ 0x20 || c.toNat = 0x7F ||
    ['#', '/', ':', '<', '>', '?', '@', '[', '\\', ']', '^', '|', '%'].contains c

def isAscii (cs : List Char) : Bool :=
  cs.all (·.toNat < 128)

/-- The normal form of a name, each of whose characters has become what it becomes. -/
def mapName? (cs : List Char) : Option (List Char) := do
  return Text.normalForm (← cs.mapM domainChar?).flatten

/-- A label with the characters that it stands for: one that claims to be punycode stands
for a label that is no ASCII and in its own normal form. -/
def plainLabel? (label : List Char) : Option (List Char) :=
  match Text.after? "xn--".toList label with
  | some tail => do
    let plain ← Punycode.decode? tail
    if isAscii plain || mapName? plain ≠ some plain then none else some plain
  | none => some label

/-- Whether a label has its marks and joiners in their places. -/
def isWellFormed (label : List Char) : Bool :=
  isAscii label || (!(label.head?).any Text.isMark && areJoinersPlaced [] label)

def labelToAscii (label : List Char) : List Char :=
  if isAscii label then label else "xn--".toList ++ Punycode.encode label

/-- The domain of a text. -/
def domainToAscii? (cs : List Char) : Option (List Char) := do
  let labels ← ((← mapName? cs).splitOn '.').mapM plainLabel?
  let domain := ['.'].intercalate (labels.map labelToAscii)
  if domain.isEmpty || domain.any isForbiddenInDomain then none
  else if labels.all isWellFormed && areDirected labels then some domain
  else none

end PolicyGuard.Url
