import PolicyGuard.Number.Binary64

/-!
Punycode: labels with any characters as labels of ASCII letters and digits.
-/

namespace PolicyGuard.Url.Punycode

/-- The digit of a value below 36. -/
def digit (n : Nat) : Char :=
  if n < 26 then Char.ofNat ('a'.toNat + n) else Char.ofNat ('0'.toNat + (n - 26))

def digitValue? (c : Char) : Option Nat :=
  let d := c.toLower
  if 'a' ≤ d && d ≤ 'z' then some (d.toNat - 'a'.toNat)
  else if d.isDigit then some (d.toNat - '0'.toNat + 26)
  else none

/-- The smallest weight at which a number may end. -/
def threshold (k bias : Nat) : Nat :=
  if k ≤ bias then 1 else if bias + 26 ≤ k then 26 else k - bias

/-- Divides down until the bias is in range. -/
def settle : Nat → Nat → Nat → Nat
  | 0, _, k => k
  | fuel + 1, delta, k =>
    if 455 < delta then settle fuel (delta / 35) (k + 36) else k + 36 * delta / (delta + 38)

/-- The bias after a number. -/
def adapt (delta count : Nat) (isFirst : Bool) : Nat :=
  let delta := if isFirst then delta / 700 else delta / 2
  let delta := delta + delta / count
  settle (delta.log2 + 1) delta 0

/-- A number as digits of varying weight, from position `k` on. -/
def encodeNumber : Nat → Nat → Nat → Nat → List Char
  | 0, _, _, _ => []
  | fuel + 1, k, bias, q =>
    let t := threshold k bias
    if q < t then [digit q]
    else digit (t + (q - t) % (36 - t)) :: encodeNumber fuel (k + 36) bias ((q - t) / (36 - t))

/-- The state between two numbers. -/
structure State where
  delta : Nat
  bias : Nat
  handled : Nat
  output : List Char

/-- Goes once over the label for the code point `n`. -/
def encodeRound (basic n : Nat) (label : List Nat) (s : State) : State :=
  label.foldl
    (fun s c =>
      if c < n then { s with delta := s.delta + 1 }
      else if c = n then
        { delta := 0
          bias := adapt s.delta (s.handled + 1) (s.handled = basic)
          handled := s.handled + 1
          output := s.output ++ encodeNumber (s.delta.log2 + 2) 36 s.bias s.delta }
      else s)
    s

/-- All rounds, each for the next larger code point that occurs. -/
def encodeRounds : Nat → Nat → Nat → List Nat → State → State
  | 0, _, _, _, s => s
  | fuel + 1, basic, n, label, s =>
    match (label.filter (n ≤ ·)).min? with
    | none => s
    | some m =>
      let s := { s with delta := s.delta + (m - n) * (s.handled + 1) }
      let s := encodeRound basic m label s
      encodeRounds fuel basic (m + 1) label { s with delta := s.delta + 1 }

/-- The part after `xn--` for a label. -/
def encode (label : List Char) : List Char :=
  let basic := label.filter (·.toNat < 128)
  let start : State :=
    ⟨0, 72, basic.length, basic ++ if basic.isEmpty then [] else ['-']⟩
  (encodeRounds label.length basic.length 128 (label.map Char.toNat) start).output

/-- One number: its value times `w`, added to `i`, and what follows. -/
def decodeNumber? (bias : Nat) : List Char → Nat → Nat → Nat → Option (Nat × List Char)
  | [], _, _, _ => none
  | c :: rest, i, w, k => do
    let d ← digitValue? c
    let i := i + d * w
    let t := threshold k bias
    if d < t then some (i, rest) else decodeNumber? bias rest i (w * (36 - t)) (k + 36)

/-- Inserts the characters that the numbers stand for. -/
def decodeFrom? : Nat → List Char → Nat → Nat → Nat → List Char → Option (List Char)
  | _, [], _, _, _, out => some out
  | 0, _, _, _, _, _ => none
  | fuel + 1, cs, n, i, bias, out => do
    let (next, rest) ← decodeNumber? bias cs i 1 36
    let count := out.length + 1
    let bias := adapt (next - i) count (i = 0)
    let n := n + next / count
    let place := next % count
    if n.isValidChar then
      decodeFrom? fuel rest n (place + 1) bias (out.take place ++ Char.ofNat n :: out.drop place)
    else none

/-- The label of the part after `xn--`. -/
def decode? (cs : List Char) : Option (List Char) :=
  let tail := (cs.reverse.takeWhile (· ≠ '-')).reverse
  let front := (cs.take (cs.length - tail.length)).dropLast
  if front.all (·.toNat < 128) then decodeFrom? tail.length tail 128 0 72 front else none

end PolicyGuard.Url.Punycode
