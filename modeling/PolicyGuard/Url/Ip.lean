import PolicyGuard.Text.Hex
import PolicyGuard.Number.Decimal

/-!
Numeric hosts. An IPv4 address has up to four numbers, decimal, octal or
hexadecimal, the last of which fills all bytes that are left; an IPv6 address
has eight pieces, of which one run of zeros may be left out.
-/

namespace PolicyGuard.Url

/-! ## IPv4 -/

/-- The number of a part of an address. -/
def ipv4Number? (part : List Char) : Option Nat :=
  match part with
  | [] => none
  | '0' :: c :: digits =>
    if c = 'x' || c = 'X' then Text.hexNumber? digits
    else if (c :: digits).all fun d => '0' ≤ d && d ≤ '7' then
      some ((c :: digits).foldl (fun n d => 8 * n + digitValue d) 0)
    else none
  | digits => if digits.all Char.isDigit then some (digitsValue digits) else none

/-- The parts between points; a point at the end opens no part. -/
def hostParts (host : List Char) : List (List Char) :=
  let parts := host.splitOn '.'
  if 1 < parts.length && parts.getLast? = some [] then parts.dropLast else parts

/-- Whether a host has to be an IPv4 address. -/
def endsInNumber (host : List Char) : Bool :=
  match (hostParts host).getLast? with
  | some part => (!part.isEmpty && part.all Char.isDigit) || (ipv4Number? part).isSome
  | none => false

/-- The address of a host that ends in a number. -/
def ipv4? (host : List Char) : Option Nat := do
  let numbers ← (hostParts host).mapM ipv4Number?
  let last ← numbers.getLast?
  let front := numbers.dropLast
  if 4 < numbers.length || front.any (255 < ·) || Nat.pow 256 (4 - front.length) ≤ last then none
  else some (front.zipIdx.foldl (fun n p => n + p.1 * Nat.pow 256 (3 - p.2)) last)

def ipv4Text (address : Nat) : List Char :=
  ['.'].intercalate ([3, 2, 1, 0].map fun k => Binary64.digitsOf (address / Nat.pow 256 k % 256))

/-! ## IPv6 -/

/-- One piece: up to four hexadecimal digits. -/
def ipv6Piece? (part : List Char) : Option Nat :=
  if part.isEmpty || 4 < part.length then none else Text.hexNumber? part

/-- A byte in decimal, without zeros in front. -/
def ipv4Byte? (part : List Char) : Option Nat :=
  if part.isEmpty || !part.all Char.isDigit || (part.head? = some '0' && 1 < part.length) then none
  else
    let n := digitsValue part
    if n ≤ 255 then some n else none

/-- The two pieces of an IPv4 address at the end. -/
def dottedPieces? (part : List Char) : Option (List Nat) := do
  match ← (part.splitOn '.').mapM ipv4Byte? with
  | [a, b, c, d] => some [a * 256 + b, c * 256 + d]
  | _ => none

/-- Pieces between colons, the last of which may be dotted. -/
def pieces? (mayDot : Bool) : List (List Char) → Option (List Nat)
  | [] => some []
  | [last] =>
    if mayDot && last.contains '.' then dottedPieces? last else (ipv6Piece? last).map fun n => [n]
  | part :: rest => do
    return (← ipv6Piece? part) :: (← pieces? mayDot rest)

def colonPieces? (mayDot : Bool) (cs : List Char) : Option (List Nat) :=
  if cs.isEmpty then some [] else pieces? mayDot (cs.splitOn ':')

/-- The text before and after the first two colons in a row. -/
def atDoubleColon? (before : List Char) : List Char → Option (List Char × List Char)
  | ':' :: ':' :: rest => some (before.reverse, rest)
  | c :: rest => atDoubleColon? (c :: before) rest
  | [] => none

/-- The eight pieces of an address. -/
def ipv6? (cs : List Char) : Option (List Nat) :=
  match atDoubleColon? [] cs with
  | some (front, back) => do
    let front ← colonPieces? false front
    let back ← colonPieces? true back
    let missing := 8 - (front.length + back.length)
    if missing = 0 then none else some (front ++ List.replicate missing 0 ++ back)
  | none => do
    let all ← colonPieces? true cs
    if all.length = 8 then some all else none

/-- The longest run of zeros, by start and length, the first of equally long ones. -/
def longestZeros (pieces : List Nat) : Nat × Nat :=
  (List.range pieces.length).foldl
    (fun best start =>
      let run := ((pieces.drop start).takeWhile (· = 0)).length
      if best.2 < run then (start, run) else best)
    (0, 0)

def hexText (n : Nat) : List Char :=
  Nat.toDigits 16 n

/-- An address in brackets, without its longest run of at least two zeros. -/
def ipv6Text (pieces : List Nat) : List Char :=
  let (start, length) := longestZeros pieces
  let groups (ns : List Nat) := [':'].intercalate (ns.map hexText)
  let body :=
    if length < 2 then groups pieces
    else groups (pieces.take start) ++ [':', ':'] ++ groups (pieces.drop (start + length))
  '[' :: (body ++ [']'])

end PolicyGuard.Url
