import PolicyGuard.Text.Hex

/-!
The SHA-256 digest of bytes, as 64 hexadecimal digits.

A message is filled up to whole blocks of 64 bytes and ends in its length in
bits; `compress` takes one block into the eight words of the state.
-/

namespace PolicyGuard.Sha256

abbrev Word := UInt32

def rotateRight (x : Word) (n : Nat) : Word :=
  (x >>> UInt32.ofNat n) ||| (x <<< UInt32.ofNat (32 - n))

/-- The words of the start, one for each of the first eight primes. -/
def initial : List Word :=
  [0x6a09e667, 0xbb67ae85, 0x3c6ef372, 0xa54ff53a, 0x510e527f, 0x9b05688c, 0x1f83d9ab, 0x5be0cd19]

/-- One word for each round, from the first 64 primes. -/
def constants : List Word :=
  [0x428a2f98, 0x71374491, 0xb5c0fbcf, 0xe9b5dba5, 0x3956c25b, 0x59f111f1, 0x923f82a4, 0xab1c5ed5,
    0xd807aa98, 0x12835b01, 0x243185be, 0x550c7dc3, 0x72be5d74, 0x80deb1fe, 0x9bdc06a7, 0xc19bf174,
    0xe49b69c1, 0xefbe4786, 0x0fc19dc6, 0x240ca1cc, 0x2de92c6f, 0x4a7484aa, 0x5cb0a9dc, 0x76f988da,
    0x983e5152, 0xa831c66d, 0xb00327c8, 0xbf597fc7, 0xc6e00bf3, 0xd5a79147, 0x06ca6351, 0x14292967,
    0x27b70a85, 0x2e1b2138, 0x4d2c6dfc, 0x53380d13, 0x650a7354, 0x766a0abb, 0x81c2c92e, 0x92722c85,
    0xa2bfe8a1, 0xa81a664b, 0xc24b8b70, 0xc76c51a3, 0xd192e819, 0xd6990624, 0xf40e3585, 0x106aa070,
    0x19a4c116, 0x1e376c08, 0x2748774c, 0x34b0bcb5, 0x391c0cb3, 0x4ed8aa4a, 0x5b9cca4f, 0x682e6ff3,
    0x748f82ee, 0x78a5636f, 0x84c87814, 0x8cc70208, 0x90befffa, 0xa4506ceb, 0xbef9a3f7, 0xc67178f2]

/-! ## The message -/

/-- A number as bytes, high ones first. -/
def bigEndian (size n : Nat) : List UInt8 :=
  (List.range size).reverse.map fun i => UInt8.ofNat (n / Nat.pow 256 i)

/-- The message with a set bit, zeros and its length. -/
def pad (message : List UInt8) : List UInt8 :=
  let zeros := (119 - message.length % 64) % 64
  message ++ 0x80 :: List.replicate zeros 0 ++ bigEndian 8 (8 * message.length)

def words : List UInt8 → List Word
  | a :: b :: c :: d :: rest =>
    ((a.toUInt32 <<< 24) ||| (b.toUInt32 <<< 16) ||| (c.toUInt32 <<< 8) ||| d.toUInt32) :: words rest
  | _ => []

/-- The first `n` blocks of 16 words. -/
def blocks : Nat → List Word → List (List Word)
  | 0, _ => []
  | n + 1, ws => ws.take 16 :: blocks n (ws.drop 16)

/-! ## Compression -/

/-- The words of a block and `n` further ones; each comes from the 16 before it. -/
def schedule : Nat → List Word → List Word
  | 0, window => window
  | n + 1, window =>
    match window with
    | w0 :: w1 :: w2 :: w3 :: w4 :: w5 :: w6 :: w7 :: w8 :: w9 :: w10 :: w11 :: w12 :: w13 :: w14 :: rest =>
      let s0 := rotateRight w1 7 ^^^ rotateRight w1 18 ^^^ (w1 >>> 3)
      let s1 := rotateRight w14 17 ^^^ rotateRight w14 19 ^^^ (w14 >>> 10)
      w0 :: schedule n (w1 :: w2 :: w3 :: w4 :: w5 :: w6 :: w7 :: w8 :: w9 :: w10 :: w11 :: w12 ::
        w13 :: w14 :: (rest ++ [w0 + s0 + w9 + s1]))
    | short => short

def round (state : List Word) (k w : Word) : List Word :=
  match state with
  | [a, b, c, d, e, f, g, h] =>
    let s1 := rotateRight e 6 ^^^ rotateRight e 11 ^^^ rotateRight e 25
    let choice := (e &&& f) ^^^ ((e ^^^ 0xffffffff) &&& g)
    let t1 := h + s1 + choice + k + w
    let s0 := rotateRight a 2 ^^^ rotateRight a 13 ^^^ rotateRight a 22
    let majority := (a &&& b) ^^^ (a &&& c) ^^^ (b &&& c)
    [t1 + (s0 + majority), a, b, c, d + t1, e, f, g]
  | other => other

def compress (state : List Word) (block : List Word) : List Word :=
  let mixed := (constants.zip (schedule 48 block)).foldl (fun s kw => round s kw.1 kw.2) state
  List.zipWith (· + ·) state mixed

def digest (message : List UInt8) : List Word :=
  let ws := words (pad message)
  (blocks (ws.length / 16) ws).foldl compress initial

/-! ## The text of a digest -/

def hexWord (w : Word) : List Char :=
  (List.range 8).reverse.map fun i => Text.hexDigit (w.toNat / Nat.pow 16 i % 16)

/-- The digest in lower-case hexadecimal digits. -/
def hex (message : List UInt8) : String :=
  String.ofList ((digest message).flatMap hexWord)

theorem length_hexWord (w : Word) : (hexWord w).length = 8 := by
  simp [hexWord]

theorem length_round {state : List Word} (h : state.length = 8) (k w : Word) :
    (round state k w).length = 8 := by
  unfold round
  split
  · rfl
  · exact h

theorem length_foldl {α : Type} {f : List Word → α → List Word}
    (hf : ∀ state a, state.length = 8 → (f state a).length = 8) (as : List α)
    {state : List Word} (h : state.length = 8) : (as.foldl f state).length = 8 := by
  induction as generalizing state with
  | nil => exact h
  | cons a rest ih => exact ih (hf state a h)

theorem length_compress {state : List Word} (h : state.length = 8) (block : List Word) :
    (compress state block).length = 8 := by
  have hm := length_foldl (fun s kw hs => length_round hs kw.1 kw.2)
    (constants.zip (schedule 48 block)) h
  simp [compress, h, hm]

theorem length_digest (message : List UInt8) : (digest message).length = 8 :=
  length_foldl (fun _ block hs => length_compress hs block) _ rfl

theorem length_hexWords (ws : List Word) : (ws.flatMap hexWord).length = 8 * ws.length := by
  induction ws with
  | nil => rfl
  | cons w rest ih =>
    simp only [List.flatMap_cons, List.length_append, List.length_cons, length_hexWord, ih]
    omega

/-- A digest is written in 64 digits. -/
theorem length_hex (message : List UInt8) : (hex message).length = 64 := by
  rw [hex, String.length_ofList, length_hexWords, length_digest]

end PolicyGuard.Sha256
