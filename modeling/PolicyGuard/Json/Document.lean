import PolicyGuard.Json.Token
import PolicyGuard.Json.Value

/-!
JSON documents as written, and the values they stand for.

A document keeps the order and the repetitions of members, and the places where
a number is out of range or a text has an escape that stands for no character.
Reading it as a value takes the last of equal names, and refuses those places
and nesting of 128 levels; a reader that skips a part does not look into it.
-/

namespace PolicyGuard.Json

/-! ## Texts -/

/-- The text of quoted pieces. Two escapes may write one character together. -/
def unitsText? : List Unit16 → Option (List Char)
  | [] => some []
  | .char c :: rest => (unitsText? rest).map (c :: ·)
  | .escape n :: rest =>
    if 0xDC00 ≤ n && n ≤ 0xDFFF then none
    else if 0xD800 ≤ n && n ≤ 0xDBFF then
      match rest with
      | .escape m :: tail =>
        if 0xDC00 ≤ m && m ≤ 0xDFFF then
          (unitsText? tail).map (Char.ofNat (0x10000 + (n - 0xD800) * 0x400 + (m - 0xDC00)) :: ·)
        else none
      | _ => none
    else (unitsText? rest).map (Char.ofNat n :: ·)

def unitsString? (units : List Unit16) : Option String :=
  (unitsText? units).map String.ofList

/-! ## Numbers -/

/-- The largest whole number. -/
def maxWhole : Nat := Nat.pow 2 64 - 1

/-- Takes digits into `n` while it stays a whole number; the digits left over follow. -/
def absorb (n : Nat) : List Char → Nat × List Char
  | [] => (n, [])
  | d :: ds =>
    let next := 10 * n + digitValue d
    if next ≤ maxWhole then absorb next ds else (n, d :: ds)

/-- The size `steps` divided by 10^308 until the exponent is in reach. -/
def scaleDown : Nat → Nat → Nat → Binary64
  | 0, _, _ => .finite false 0
  | rounds + 1, steps, exponent =>
    if exponent ≤ 308 then .overPowerOfTen steps exponent
    else
      match Binary64.overPowerOfTen steps 308 with
      | .finite _ smaller => scaleDown rounds smaller (exponent - 308)
      | _ => .finite false 0

/-- The floating point number of `mantissa * 10^exponent`: the mantissa is
rounded first and then scaled in one step. There is none beyond the range. -/
def scaledFloat? (mantissa : Nat) (exponent : Int) : Option Binary64 :=
  match Binary64.ofNat mantissa with
  | .finite _ 0 => some (.finite false 0)
  | .finite _ steps =>
    match exponent with
    | .ofNat e =>
      if 308 < e then none
      else
        let x := Binary64.timesPowerOfTen steps e
        if x.isFinite then some x else none
    | .negSucc e => some (scaleDown 3 steps (e + 1))
  | _ => none

/-- The unsigned floating point number of a numeral. Digits that no longer fit a
whole number count only by their number before the point, and not at all after it. -/
def Numeral.magnitude? (n : Numeral) : Option Binary64 :=
  let (mantissa, left) := absorb 0 n.whole
  let (mantissa, unused) := absorb mantissa n.fraction
  let start : Int := (left.length : Int) - ((n.fraction.length - unused.length : Nat) : Int)
  match n.exponent with
  | none => scaledFloat? mantissa start
  | some (negative, digits) =>
    let e := digitsValue digits
    if Nat.pow 2 31 ≤ e then
      if mantissa ≠ 0 && !negative then none else some (.finite false 0)
    else scaledFloat? mantissa (if negative then start - e else start + e)

/-- The number that a numeral stands for. -/
def Numeral.number? (n : Numeral) : Option Number :=
  let (whole, left) := absorb 0 n.whole
  let isWhole := left.isEmpty && n.fraction.isEmpty && n.exponent.isNone
  if isWhole && !n.negative then some (.whole whole)
  else if isWhole && 0 < whole && whole ≤ Nat.pow 2 63 then some (.whole (-(whole : Int)))
  else n.magnitude?.map fun x => .float (if n.negative then x.neg else x)

/-! ## Documents -/

inductive Document where
  | null
  | bool (b : Bool)
  | number (n : Option Number)
  | string (s : Option String)
  | array (items : List Document)
  | object (members : List (Option String × Document))
  deriving Repr

/-- A container that is still open, innermost part first. -/
inductive Frame where
  | array (items : List Document)
  | object (members : List (Option String × Document)) (name : Option String)

mutual

/-- Reads the next value inside the open containers. -/
def readValue? (frames : List Frame) : List Token → Option Document
  | .null :: rest => closeValue? .null frames rest
  | .bool b :: rest => closeValue? (.bool b) frames rest
  | .numeral n :: rest => closeValue? (.number n.number?) frames rest
  | .string units :: rest => closeValue? (.string (unitsString? units)) frames rest
  | .openArray :: .closeArray :: rest => closeValue? (.array []) frames rest
  | .openArray :: rest => readValue? (.array [] :: frames) rest
  | .openObject :: .closeObject :: rest => closeValue? (.object []) frames rest
  | .openObject :: .string name :: .colon :: rest =>
    readValue? (.object [] (unitsString? name) :: frames) rest
  | _ => none

/-- Goes on after a value that is complete. -/
def closeValue? (value : Document) : List Frame → List Token → Option Document
  | [], [] => some value
  | .array items :: frames, .comma :: rest => readValue? (.array (value :: items) :: frames) rest
  | .array items :: frames, .closeArray :: rest =>
    closeValue? (.array (value :: items).reverse) frames rest
  | .object members name :: frames, .comma :: .string next :: .colon :: rest =>
    readValue? (.object ((name, value) :: members) (unitsString? next) :: frames) rest
  | .object members name :: frames, .closeObject :: rest =>
    closeValue? (.object ((name, value) :: members).reverse) frames rest
  | _, _ => none

end

/-- The document that a text writes. -/
def Document.read? (text : String) : Option Document :=
  (tokens? text.toList).bind (readValue? [])

/-! ## Values -/

/-- Containers may be nested one less than this deep. -/
def depthLimit : Nat := 128

mutual

/-- The value of a document inside which `depth - 1` more levels may open. -/
def Document.value? (depth : Nat) : Document → Option Json
  | .null => some .null
  | .bool b => some (.bool b)
  | .number n => n.map .number
  | .string s => s.map .string
  | .array items =>
    if depth ≤ 1 then none else (itemValues? (depth - 1) items).map .array
  | .object members =>
    if depth ≤ 1 then none
    else (memberValues? (depth - 1) members).map fun pairs => .object (Table.ofList pairs)

def itemValues? (depth : Nat) : List Document → Option (List Json)
  | [] => some []
  | item :: rest => do return (← item.value? depth) :: (← itemValues? depth rest)

def memberValues? (depth : Nat) : List (Option String × Document) → Option (List (String × Json))
  | [] => some []
  | (name, value) :: rest => do
    return (← name, ← value.value? depth) :: (← memberValues? depth rest)

end

/-- The value that a text writes. -/
def read? (text : String) : Option Json :=
  (Document.read? text).bind (Document.value? depthLimit)

mutual

/-- A value written out as a document. -/
def document : Json → Document
  | .null => .null
  | .bool b => .bool b
  | .number n => .number (some n)
  | .string s => .string (some s)
  | .array items => .array (itemDocuments items)
  | .object members => .object (memberDocuments members)

def itemDocuments : List Json → List Document
  | [] => []
  | item :: rest => item.document :: itemDocuments rest

def memberDocuments : List (String × Json) → List (Option String × Document)
  | [] => []
  | (name, value) :: rest => (some name, value.document) :: memberDocuments rest

end

end PolicyGuard.Json
