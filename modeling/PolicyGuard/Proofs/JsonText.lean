import Mathlib.Data.List.TakeWhile
import PolicyGuard.Json.Document
import PolicyGuard.Json.Text
import PolicyGuard.Proofs.Digits
import PolicyGuard.Proofs.Scan

/-!
The compact text of a value, read again.

The text of a value whose numbers are read as what they are is read as the document of that
value, whatever follows it inside an array or an object. Whole numbers of 64 bits are such
numbers.

* `readUnits?_quoted`, `readToken?_intText`, `readToken?_append`: texts and numbers;
* `isExact_of_isWhole`: whole numbers;
* `spells_chars`: the tokens of a value;
* `readValue?_tokens`: the document of these tokens;
* `read?_of_isExact`, `read?_compact`: both together.
-/

namespace PolicyGuard.Json

open Binary64 (digitsOf)

/-! ## Quoted texts -/

/-- A character as it is read between quotes: by its number where it has no shorter escape. -/
def unit (c : Char) : Unit16 :=
  if 0x20 ≤ c.toNat ∨ c ∈ ['\n', '\r', '\t', '\x08', '\x0c'] then .char c else .escape c.toNat

theorem hexNumber?_control {n : Nat} (h : n < 0x20) :
    Text.hexNumber? ['0', '0', Text.hexDigit (n / 16), Text.hexDigit (n % 16)] = some n := by
  revert n
  decide

theorem readUnits?_plain {c : Char} (hq : c ≠ '"') (hb : c ≠ '\\') (hc : 0x20 ≤ c.toNat)
    (rest : List Char) :
    readUnits? (c :: rest) = (readUnits? rest).map fun p => (.char c :: p.1, p.2) := by
  have hn : ¬c.toNat < 0x20 := by omega
  rw [readUnits?]
  · cases readUnits? rest <;> simp [hn, hb]
  all_goals simp_all

theorem readUnits?_escaped (c : Char) (rest : List Char) :
    readUnits? (escaped c ++ rest) = (readUnits? rest).map fun p => (unit c :: p.1, p.2) := by
  by_cases hs : c ∈ ['"', '\\', '\n', '\r', '\t', '\x08', '\x0c']
  · simp only [List.mem_cons, List.not_mem_nil, or_false] at hs
    rcases hs with rfl | rfl | rfl | rfl | rfl | rfl | rfl <;>
      cases h : readUnits? rest <;> simp [escaped, readUnits?, escapeChar?, unit, h]
  · simp only [List.mem_cons, List.not_mem_nil, or_false, not_or] at hs
    obtain ⟨hq, hb, hn, hr, ht, h8, hf⟩ := hs
    by_cases hc : c.toNat < 0x20
    · have hx := hexNumber?_control hc
      have hu : unit c = .escape c.toNat := by
        simp [unit, hc, hn, hr, ht, h8, hf]
      simp only [escaped, hq, hb, hn, hr, ht, h8, hf, hc, if_false, if_true, List.cons_append,
        List.nil_append, readUnits?, hx, hu]
      cases readUnits? rest <;> rfl
    · have hu : unit c = .char c := if_pos (.inl (by omega))
      simp only [escaped, hq, hb, hn, hr, ht, h8, hf, hc, if_false, List.cons_append,
        List.nil_append, hu]
      exact readUnits?_plain hq hb (by omega) rest

theorem readUnits?_quoted (cs rest : List Char) :
    readUnits? (cs.flatMap escaped ++ '"' :: rest) = some (cs.map unit, rest) := by
  induction cs with
  | nil => rfl
  | cons c cs ih =>
    rw [List.flatMap_cons, List.append_assoc, readUnits?_escaped, ih]
    rfl

/-- A number that is no half of a character stands for its own. -/
theorem unitsText?_escape {n : Nat} (h : n < 0xD800) (units : List Unit16) :
    unitsText? (.escape n :: units) = (unitsText? units).map (Char.ofNat n :: ·) := by
  have hlow : ¬0xDC00 ≤ n := by omega
  have hhigh : ¬0xD800 ≤ n := by omega
  rw [unitsText?.eq_def]
  simp only [hlow, hhigh, decide_false, Bool.false_and, Bool.false_eq_true, if_false]

theorem unitsText?_unit (cs : List Char) : unitsText? (cs.map unit) = some cs := by
  induction cs with
  | nil => rfl
  | cons c cs ih =>
    rw [List.map_cons, unit]
    split
    · rw [unitsText?, ih]
      rfl
    next h =>
      have hc : c.toNat < 0x20 := Nat.not_le.mp fun hle => h (.inl hle)
      rw [unitsText?_escape (by omega), ih, Char.ofNat_toNat]
      rfl

/-! ## Whole numbers -/

/-- The numeral of a whole number. -/
def numeral (i : Int) : Numeral :=
  ⟨i < 0, digitsOf i.natAbs, [], none⟩

/-- Nothing follows a value, or what goes on with an array or an object or ends it. -/
def Follows (rest : List Char) : Prop :=
  ∀ c ∈ rest.head?, c ∈ [',', ']', '}']

theorem Follows.not_mem {rest : List Char} (h : Follows rest) {c : Char}
    (hc : c ∈ rest.head?) : c.isDigit = false ∧ c ≠ '.' ∧ c ≠ 'e' ∧ c ≠ 'E' := by
  have hall : ∀ c ∈ [',', ']', '}'], c.isDigit = false ∧ c ≠ '.' ∧ c ≠ 'e' ∧ c ≠ 'E' :=
    Text.forall_mem_of_all (by decide)
  exact hall c (h c hc)

theorem le_value (n : Nat) (ds : List Char) :
    n ≤ ds.foldl (fun n c => 10 * n + digitValue c) n := by
  induction ds generalizing n with
  | nil => exact Nat.le_refl n
  | cons d ds ih =>
    have := ih (10 * n + digitValue d)
    rw [List.foldl_cons]
    omega

/-- All digits are taken where the number that they write is in range. -/
theorem absorb_eq {n : Nat} {ds : List Char}
    (h : ds.foldl (fun n c => 10 * n + digitValue c) n ≤ maxWhole) :
    absorb n ds = (ds.foldl (fun n c => 10 * n + digitValue c) n, []) := by
  induction ds generalizing n with
  | nil => rfl
  | cons d ds ih =>
    rw [List.foldl_cons] at h
    have hle := le_value (10 * n + digitValue d) ds
    rw [absorb, if_pos (Nat.le_trans hle h), ih h, List.foldl_cons]

theorem number?_numeral {i : Int} (hl : -9223372036854775808 ≤ i)
    (hu : i ≤ 18446744073709551615) : (numeral i).number? = some (.whole i) := by
  have hm : maxWhole = 18446744073709551615 := rfl
  have ha : absorb 0 (digitsOf i.natAbs) = (i.natAbs, []) := by
    have hv : (digitsOf i.natAbs).foldl (fun n c => 10 * n + digitValue c) 0 = i.natAbs :=
      digitsValue_digitsOf i.natAbs
    have hle : (digitsOf i.natAbs).foldl (fun n c => 10 * n + digitValue c) 0 ≤ maxWhole := by
      rw [hv, hm]
      omega
    rw [absorb_eq hle, hv]
  have hp : Nat.pow 2 63 = 9223372036854775808 := rfl
  simp only [numeral, Numeral.number?, ha, hp]
  by_cases hi : i < 0
  · have hpos : 0 < i.natAbs := by omega
    have hle : i.natAbs ≤ 9223372036854775808 := by omega
    have hneg : -(i.natAbs : Int) = i := by omega
    simp only [hi, hpos, hle, hneg, decide_true, List.isEmpty_nil, Option.isNone_none,
      Bool.and_self, Bool.not_true, Bool.and_false, Bool.false_eq_true, if_false, if_true]
  · have hpos : (i.natAbs : Int) = i := by omega
    simp only [hi, hpos, decide_false, List.isEmpty_nil, Option.isNone_none, Bool.and_self,
      Bool.not_false, if_true]

theorem readToken?_digit {d : Char} (hd : d.isDigit = true) (cs : List Char) :
    readToken? (d :: cs) = (readUnsigned? false (d :: cs)).map fun p => (.numeral p.1, p.2) := by
  rw [readToken?]
  · exact List.cons_ne_nil _ _
  all_goals
    intro rest h
    obtain ⟨rfl, -⟩ := List.cons.inj h
    exact absurd hd (by decide)

theorem readUnsigned?_digitsOf (negative : Bool) (n : Nat) :
    readUnsigned? negative (digitsOf n) = some (⟨negative, digitsOf n, [], none⟩, []) := by
  have ht : (digitsOf n).takeWhile Char.isDigit = digitsOf n :=
    List.takeWhile_eq_self_iff.mpr fun c hc => isDigit_of_mem_digitsOf hc
  have hd : (digitsOf n).dropWhile Char.isDigit = [] :=
    List.dropWhile_eq_nil_iff.mpr fun c hc => isDigit_of_mem_digitsOf hc
  have hempty : (digitsOf n).isEmpty = false := List.isEmpty_eq_false_iff.mpr (digitsOf_ne_nil n)
  have hzero : ¬((digitsOf n).head? = some '0' ∧ 1 < (digitsOf n).length) := by
    rintro ⟨hh, hl⟩
    rw [digitsOf_of_head hh] at hl
    exact absurd hl (by decide)
  simp [readUnsigned?, ht, hd, hempty, hzero, readFraction?, readExponent?]

theorem readToken?_intText (i : Int) :
    readToken? (intText i) = some (.numeral (numeral i), []) := by
  have hu := readUnsigned?_digitsOf (decide (i < 0)) i.natAbs
  unfold intText numeral
  by_cases hi : i < 0
  · rw [decide_eq_true hi] at hu
    rw [if_pos hi, readToken?, hu, decide_eq_true hi]
    rfl
  · rw [decide_eq_false hi] at hu
    rw [if_neg hi, decide_eq_false hi]
    obtain ⟨d, ds, hd, hdigit⟩ := exists_digitsOf i.natAbs
    rw [hd] at hu ⊢
    rw [readToken?_digit hdigit, hu]
    rfl

/-! ## Numbers before what follows a value -/

theorem readFraction?_of_ne {c : Char} (hc : c ≠ '.') (cs : List Char) :
    readFraction? (c :: cs) = some ([], c :: cs) := by
  rw [readFraction?]
  rintro rest h
  exact hc (List.cons.inj h).1

/-- A number without its sign starts with a digit. -/
theorem exists_of_readUnsigned? {negative : Bool} {cs : List Char} {p : Numeral × List Char}
    (h : readUnsigned? negative cs = some p) : ∃ d ds, cs = d :: ds ∧ d.isDigit = true := by
  simp only [readUnsigned?, Option.ite_none_left_eq_some] at h
  cases cs with
  | nil => exact absurd rfl h.1
  | cons d ds =>
    refine ⟨d, ds, rfl, ?_⟩
    by_contra hd
    rw [List.takeWhile_cons_of_neg hd] at h
    exact h.1 rfl

/-- A token that is a number is read with its sign or without one. -/
theorem of_readToken?_numeral {cs left : List Char} {m : Numeral}
    (h : readToken? cs = some (.numeral m, left)) :
    (∃ ds, cs = '-' :: ds ∧ readUnsigned? true ds = some (m, left)) ∨
      readUnsigned? false cs = some (m, left) := by
  have hmap {negative : Bool} {ds : List Char}
      (h : (readUnsigned? negative ds).map (fun p => (Token.numeral p.1, p.2)) =
        some (.numeral m, left)) : readUnsigned? negative ds = some (m, left) := by
    obtain ⟨p, hp, h⟩ := Option.map_eq_some_iff.mp h
    cases h
    exact hp
  unfold readToken? at h
  split at h
  case h_12 ds => exact .inl ⟨ds, rfl, hmap h⟩
  case h_13 => exact .inr (hmap h)
  all_goals simp at h

/-- The sign of an exponent, and what follows it. -/
def exponentSign : List Char → Bool × List Char
  | '-' :: cs => (true, cs)
  | '+' :: cs => (false, cs)
  | cs => (false, cs)

theorem exponentSign_append {cs : List Char} (h : cs ≠ []) (rest : List Char) :
    exponentSign (cs ++ rest) = ((exponentSign cs).1, (exponentSign cs).2 ++ rest) := by
  obtain ⟨c, cs, rfl⟩ := List.exists_cons_of_ne_nil h
  by_cases hm : c = '-'
  · subst hm
    rfl
  · by_cases hp : c = '+'
    · subst hp
      rfl
    · simp [exponentSign, hm, hp]

theorem readExponent?_cons {c : Char} (hc : c = 'e' ∨ c = 'E') (cs : List Char) :
    readExponent? (c :: cs) =
      if ((exponentSign cs).2.takeWhile Char.isDigit).isEmpty then none
      else some (some ((exponentSign cs).1, (exponentSign cs).2.takeWhile Char.isDigit),
        (exponentSign cs).2.dropWhile Char.isDigit) := by
  have hmark : (decide (c = 'e') || decide (c = 'E')) = true := by
    simpa using hc
  rw [readExponent?.eq_def]
  exact if_pos hmark

theorem readExponent?_of_ne {c : Char} (hc : ¬(c = 'e' ∨ c = 'E')) (cs : List Char) :
    readExponent? (c :: cs) = some (none, c :: cs) := by
  have hmark : ¬(decide (c = 'e') || decide (c = 'E')) = true := by
    simpa using hc
  rw [readExponent?.eq_def]
  exact if_neg hmark

section Follow

variable {rest : List Char} (hr : Follows rest)

include hr

theorem readFraction?_append {cs left digits : List Char}
    (h : readFraction? cs = some (digits, left)) :
    readFraction? (cs ++ rest) = some (digits, left ++ rest) := by
  have hstop : ∀ c ∈ rest.head?, c.isDigit = false := fun c hc => (hr.not_mem hc).1
  rcases cs with _ | ⟨c, cs⟩
  · cases h
    cases rest with
    | nil => rfl
    | cons c rest =>
      have := (hr.not_mem rfl).2.1
      simp [readFraction?, this]
  · by_cases hc : c = '.'
    · subst hc
      simp only [readFraction?, Option.ite_none_left_eq_some] at h
      obtain ⟨hne, h⟩ := h
      cases h
      simp only [List.cons_append, readFraction?, Text.takeWhile_append_stop hstop,
        Text.dropWhile_append_stop hstop, if_neg hne]
    · rw [readFraction?_of_ne hc] at h
      cases h
      rw [List.cons_append, readFraction?_of_ne hc]

theorem readExponent?_append {cs left : List Char} {e : Option (Bool × List Char)}
    (h : readExponent? cs = some (e, left)) :
    readExponent? (cs ++ rest) = some (e, left ++ rest) := by
  have hstop : ∀ c ∈ rest.head?, c.isDigit = false := fun c hc => (hr.not_mem hc).1
  rcases cs with _ | ⟨c, cs⟩
  · cases h
    cases rest with
    | nil => rfl
    | cons c rest =>
      have := (hr.not_mem rfl).2.2
      simp [readExponent?, this]
  · by_cases hc : c = 'e' ∨ c = 'E'
    · rw [readExponent?_cons hc, Option.ite_none_left_eq_some] at h
      obtain ⟨hne, h⟩ := h
      cases h
      have hcs : cs ≠ [] := by
        rintro rfl
        exact hne rfl
      rw [List.cons_append, readExponent?_cons hc, exponentSign_append hcs,
        Text.takeWhile_append_stop hstop, Text.dropWhile_append_stop hstop, if_neg hne]
    · rw [readExponent?_of_ne hc] at h
      cases h
      rw [List.cons_append, readExponent?_of_ne hc]

theorem readUnsigned?_append {negative : Bool} {cs left : List Char} {m : Numeral}
    (h : readUnsigned? negative cs = some (m, left)) :
    readUnsigned? negative (cs ++ rest) = some (m, left ++ rest) := by
  have hstop : ∀ c ∈ rest.head?, c.isDigit = false := fun c hc => (hr.not_mem hc).1
  simp only [readUnsigned?, Option.bind_eq_bind, Option.ite_none_left_eq_some,
    Option.bind_eq_some_iff] at h
  obtain ⟨hwhole, ⟨digits, afterDigits⟩, hf, ⟨e, afterExponent⟩, he, h⟩ := h
  cases h
  simp only [readUnsigned?, Text.takeWhile_append_stop hstop, Text.dropWhile_append_stop hstop,
    if_neg hwhole, readFraction?_append hr hf, readExponent?_append hr he, Option.bind_eq_bind,
    Option.bind_some]
  rfl

/-- A number is read in the same way before what follows a value. -/
theorem readToken?_append {cs left : List Char} {m : Numeral}
    (h : readToken? cs = some (.numeral m, left)) :
    readToken? (cs ++ rest) = some (.numeral m, left ++ rest) := by
  rcases of_readToken?_numeral h with ⟨ds, rfl, hu⟩ | hu
  · rw [List.cons_append, readToken?, readUnsigned?_append hr hu]
    rfl
  · obtain ⟨d, ds, rfl, hd⟩ := exists_of_readUnsigned? hu
    have hu' := readUnsigned?_append hr hu
    rw [List.cons_append] at hu' ⊢
    rw [readToken?_digit hd, hu']
    rfl

end Follow

/-! ## Values whose numbers are exact -/

namespace Number

/-- The numeral that the text of a number is, if it is one. -/
def numeral? (n : Number) : Option Numeral :=
  match readToken? n.text with
  | some (.numeral m, []) => some m
  | _ => none

/-- Whether the text of a number stands for this very number. -/
def isExact (n : Number) : Bool :=
  n.numeral?.bind Numeral.number? = some n

theorem exists_of_isExact {n : Number} (h : n.isExact = true) :
    ∃ m, n.numeral? = some m ∧ readToken? n.text = some (.numeral m, []) ∧
      m.number? = some n := by
  obtain ⟨m, hm, hn⟩ := Option.bind_eq_some_iff.mp (of_decide_eq_true h)
  refine ⟨m, hm, ?_, hn⟩
  unfold numeral? at hm
  split at hm
  next ht =>
    cases hm
    exact ht
  next => cases hm

theorem isExact_whole {i : Int} (hl : -9223372036854775808 ≤ i)
    (hu : i ≤ 18446744073709551615) : (whole i).isExact = true := by
  have hm : (whole i).numeral? = some (numeral i) := by
    rw [numeral?, text, readToken?_intText]
  rw [isExact, hm, Option.bind_some, number?_numeral hl hu, decide_eq_true rfl]

end Number

mutual

/-- Whether all numbers are whole ones, signed or unsigned, of 64 bits. -/
def isWhole : Json → Bool
  | null => true
  | bool _ => true
  | number (.whole i) => -9223372036854775808 ≤ i && i ≤ 18446744073709551615
  | number (.float _) => false
  | string _ => true
  | array items => areItemsWhole items
  | object members => areMembersWhole members

def areItemsWhole : List Json → Bool
  | [] => true
  | item :: rest => item.isWhole && areItemsWhole rest

def areMembersWhole : List (String × Json) → Bool
  | [] => true
  | (_, value) :: rest => value.isWhole && areMembersWhole rest

end

mutual

/-- Whether all numbers are read from their texts as what they are. -/
def isExact : Json → Bool
  | null => true
  | bool _ => true
  | number n => n.isExact
  | string _ => true
  | array items => areItemsExact items
  | object members => areMembersExact members

def areItemsExact : List Json → Bool
  | [] => true
  | item :: rest => item.isExact && areItemsExact rest

def areMembersExact : List (String × Json) → Bool
  | [] => true
  | (_, value) :: rest => value.isExact && areMembersExact rest

end

mutual

theorem isExact_of_isWhole : (j : Json) → j.isWhole = true → j.isExact = true
  | .null, _ => rfl
  | .bool _, _ => rfl
  | .number (.whole i), h => by
    simp only [isWhole, Bool.and_eq_true, decide_eq_true_eq] at h
    exact Number.isExact_whole h.1 h.2
  | .number (.float _), h => by cases h
  | .string _, _ => rfl
  | .array items, h => areItemsExact_of_whole items h
  | .object members, h => areMembersExact_of_whole members h

theorem areItemsExact_of_whole : (items : List Json) → areItemsWhole items = true →
    areItemsExact items = true
  | [], _ => rfl
  | item :: rest, h => by
    obtain ⟨hitem, hrest⟩ := (Bool.and_eq_true _ _).mp h
    exact (Bool.and_eq_true _ _).mpr
      ⟨isExact_of_isWhole item hitem, areItemsExact_of_whole rest hrest⟩

theorem areMembersExact_of_whole : (members : List (String × Json)) →
    areMembersWhole members = true → areMembersExact members = true
  | [], _ => rfl
  | (_, value) :: rest, h => by
    obtain ⟨hvalue, hrest⟩ := (Bool.and_eq_true _ _).mp h
    exact (Bool.and_eq_true _ _).mpr
      ⟨isExact_of_isWhole value hvalue, areMembersExact_of_whole rest hrest⟩

end

/-! ## The tokens of a value -/

/-- The token of a quoted text. -/
def textToken (s : String) : Token :=
  .string (s.toList.map unit)

mutual

/-- The tokens of the compact text of a value. -/
def tokens : Json → List Token
  | null => [.null]
  | bool b => [.bool b]
  | number n => (n.numeral?.map Token.numeral).toList
  | string s => [textToken s]
  | array [] => [.openArray, .closeArray]
  | array (item :: rest) => .openArray :: (item.tokens ++ itemTokens rest)
  | object [] => [.openObject, .closeObject]
  | object ((name, value) :: rest) =>
    .openObject :: textToken name :: .colon :: (value.tokens ++ memberTokens rest)

def itemTokens : List Json → List Token
  | [] => [.closeArray]
  | item :: rest => .comma :: (item.tokens ++ itemTokens rest)

def memberTokens : List (String × Json) → List Token
  | [] => [.closeObject]
  | (name, value) :: rest =>
    .comma :: textToken name :: .colon :: (value.tokens ++ memberTokens rest)

end

/-- Before `rest`, a text is read as these tokens. -/
def Spells (ts : List Token) (cs rest : List Char) : Prop :=
  ∀ n tail, tokensWithin n rest = some tail →
    tokensWithin (n + cs.length) (cs ++ rest) = some (ts ++ tail)

theorem tokensWithin_mono {n m : Nat} (hnm : n ≤ m) {cs : List Char} {ts : List Token}
    (h : tokensWithin n cs = some ts) : tokensWithin m cs = some ts := by
  induction n generalizing m cs ts with
  | zero =>
    cases cs with
    | nil => cases m <;> simpa [tokensWithin] using h
    | cons c cs => simp [tokensWithin] at h
  | succ n ih =>
    cases cs with
    | nil => cases m <;> simpa [tokensWithin] using h
    | cons c cs =>
      obtain ⟨m, rfl⟩ : ∃ k, m = k + 1 := ⟨m - 1, by omega⟩
      rw [tokensWithin] at h ⊢
      split at h
      next hs =>
        rw [if_pos hs]
        exact ih (by omega) h
      next hs =>
        rw [if_neg hs]
        simp only [Option.bind_eq_bind, Option.bind_eq_some_iff] at h ⊢
        obtain ⟨p, hp, us, hus, h⟩ := h
        exact ⟨p, hp, us, ih (by omega) hus, h⟩

section Spells

variable {ts us : List Token} {cs ds rest : List Char}

theorem Spells.append (hc : Spells ts cs (ds ++ rest)) (hd : Spells us ds rest) :
    Spells (ts ++ us) (cs ++ ds) rest := by
  intro n tail h
  have hall := hc (n + ds.length) (us ++ tail) (hd n tail h)
  have hlen : n + (cs ++ ds).length = n + ds.length + cs.length := by
    rw [List.length_append]
    omega
  rw [hlen, List.append_assoc, List.append_assoc]
  exact hall

/-- One token, and whatever is read after it. -/
theorem spells_token {t : Token} {c : Char} (hs : isSpace c = false)
    (h : readToken? (c :: cs ++ rest) = some (t, rest)) : Spells [t] (c :: cs) rest := by
  intro n tail ht
  have hlen : n + (c :: cs).length = n + cs.length + 1 := by
    rw [List.length_cons]
    omega
  have hmono := tokensWithin_mono (Nat.le_add_right n cs.length) ht
  rw [hlen, List.cons_append, tokensWithin, hs]
  rw [List.cons_append] at h
  simp only [Bool.false_eq_true, if_false, h, Option.bind_eq_bind, Option.bind_some, hmono]
  rfl

/-- A token of one character in front. -/
theorem Spells.cons {t : Token} {c : Char} (hs : isSpace c = false)
    (h : ∀ more, readToken? (c :: more) = some (t, more)) (hd : Spells us ds rest) :
    Spells (t :: us) (c :: ds) rest :=
  (spells_token hs (h (ds ++ rest)) : Spells [t] [c] (ds ++ rest)).append hd

theorem spells_quoted (s : String) (rest : List Char) : Spells [textToken s] (quoted s) rest := by
  refine spells_token rfl ?_
  have hu := readUnits?_quoted s.toList rest
  rw [List.cons_append, List.append_assoc, List.singleton_append, readToken?, hu]
  rfl

theorem isSpace_of_isDigit {c : Char} (h : c.isDigit = true) : isSpace c = false := by
  have hn : c ∉ [' ', '\n', '\t', '\r'] := by
    intro hm
    have hall : ∀ c ∈ [' ', '\n', '\t', '\r'], c.isDigit = false :=
      Text.forall_mem_of_all (by decide)
    rw [hall c hm] at h
    cases h
  simp only [List.mem_cons, not_or] at hn
  simp [isSpace, hn]

/-- A number starts with a sign or a digit, so there is no space in front of it. -/
theorem exists_of_readToken?_numeral {m : Numeral} {left : List Char}
    (h : readToken? cs = some (.numeral m, left)) :
    ∃ c ds, cs = c :: ds ∧ isSpace c = false := by
  rcases of_readToken?_numeral h with ⟨ds, rfl, -⟩ | hu
  · exact ⟨'-', ds, rfl, rfl⟩
  · obtain ⟨d, ds, rfl, hd⟩ := exists_of_readUnsigned? hu
    exact ⟨d, ds, rfl, isSpace_of_isDigit hd⟩

theorem spells_text (hr : Follows rest) {n : Number} (h : n.isExact = true) :
    Spells (tokens (.number n)) n.text rest := by
  obtain ⟨m, hm, ht, -⟩ := Number.exists_of_isExact h
  have htoken : tokens (.number n) = [.numeral m] := by
    rw [tokens, hm]
    rfl
  obtain ⟨c, cs, hc, hs⟩ := exists_of_readToken?_numeral ht
  rw [htoken]
  rw [hc] at ht ⊢
  exact spells_token hs (readToken?_append hr ht)

end Spells

theorem follows_itemChars (items : List Json) (rest : List Char) :
    Follows (itemChars items ++ rest) := by
  cases items <;>
  · rintro c hc
    obtain rfl := Option.some.inj hc
    decide

theorem follows_memberChars (members : List (String × Json)) (rest : List Char) :
    Follows (memberChars members ++ rest) := by
  cases members with
  | nil =>
    rintro c hc
    obtain rfl := Option.some.inj hc
    decide
  | cons m members =>
    rintro c hc
    obtain rfl := Option.some.inj hc
    decide

mutual

/-- The text of a value is read as its tokens, where a value may end. -/
theorem spells_chars : (j : Json) → j.isExact = true → {rest : List Char} → Follows rest →
    Spells j.tokens j.chars rest
  | .null, _, _, _ => spells_token rfl rfl
  | .bool true, _, _, _ => spells_token rfl rfl
  | .bool false, _, _, _ => spells_token rfl rfl
  | .number _, h, _, hr => spells_text hr h
  | .string s, _, _, _ => spells_quoted s _
  | .array [], _, _, _ => .cons rfl (fun _ => rfl) (spells_token rfl rfl)
  | .array (item :: items), h, rest, _ => by
    obtain ⟨hitem, hitems⟩ := (Bool.and_eq_true _ _).mp h
    -- an item may end where the next one or the end of the array comes
    exact .cons rfl (fun _ => rfl)
      ((spells_chars item hitem (follows_itemChars items rest)).append
        (spells_itemChars items hitems rest))
  | .object [], _, _, _ => .cons rfl (fun _ => rfl) (spells_token rfl rfl)
  | .object ((name, value) :: members), h, rest, _ => by
    obtain ⟨hvalue, hmembers⟩ := (Bool.and_eq_true _ _).mp h
    exact .cons rfl (fun _ => rfl) ((spells_quoted name _).append (.cons rfl (fun _ => rfl)
      ((spells_chars value hvalue (follows_memberChars members rest)).append
        (spells_memberChars members hmembers rest))))

theorem spells_itemChars : (items : List Json) → areItemsExact items = true →
    (rest : List Char) → Spells (itemTokens items) (itemChars items) rest
  | [], _, _ => spells_token rfl rfl
  | item :: items, h, rest => by
    obtain ⟨hitem, hitems⟩ := (Bool.and_eq_true _ _).mp h
    exact .cons rfl (fun _ => rfl)
      ((spells_chars item hitem (follows_itemChars items rest)).append
        (spells_itemChars items hitems rest))

theorem spells_memberChars : (members : List (String × Json)) →
    areMembersExact members = true → (rest : List Char) →
      Spells (memberTokens members) (memberChars members) rest
  | [], _, _ => spells_token rfl rfl
  | (name, value) :: members, h, rest => by
    obtain ⟨hvalue, hmembers⟩ := (Bool.and_eq_true _ _).mp h
    exact .cons rfl (fun _ => rfl) ((spells_quoted name _).append (.cons rfl (fun _ => rfl)
      ((spells_chars value hvalue (follows_memberChars members rest)).append
        (spells_memberChars members hmembers rest))))

end

theorem tokens?_chars {j : Json} (h : j.isExact = true) : tokens? j.chars = some j.tokens := by
  have hnil : Follows [] := by
    rintro c ⟨⟩
  have hs := spells_chars j h hnil 0 [] rfl
  rwa [List.append_nil, List.append_nil, Nat.zero_add] at hs

/-! ## The document of these tokens -/

theorem tokens_ne_closeArray {j : Json} (h : j.isExact = true) (rest more : List Token) :
    j.tokens ++ rest ≠ .closeArray :: more := by
  cases j with
  | number n =>
    obtain ⟨m, hm, -⟩ := Number.exists_of_isExact h
    simp [tokens, hm]
  | array items => cases items <;> simp [tokens]
  | object members => cases members <;> simp [tokens]
  | _ => simp [tokens, textToken]

theorem unitsString?_unit (s : String) : unitsString? (s.toList.map unit) = some s := by
  rw [unitsString?, unitsText?_unit, Option.map_some, String.ofList_toList]

mutual

theorem readValue?_tokens : (j : Json) → j.isExact = true → (frames : List Frame) →
    (rest : List Token) →
      readValue? frames (j.tokens ++ rest) = closeValue? j.document frames rest
  | .null, _, frames, rest => by
    rw [tokens, List.singleton_append, readValue?, document]
  | .bool b, _, frames, rest => by
    rw [tokens, List.singleton_append, readValue?, document]
  | .number n, h, frames, rest => by
    obtain ⟨m, hm, -, hn⟩ := Number.exists_of_isExact h
    rw [tokens, hm, Option.map_some, Option.toList_some, List.singleton_append, readValue?,
      document, hn]
  | .string s, _, frames, rest => by
    rw [tokens, List.singleton_append, textToken, readValue?, document, unitsString?_unit]
  | .array [], _, frames, rest => by
    rw [tokens, List.cons_append, List.singleton_append, readValue?, document, itemDocuments]
  | .array (item :: items), h, frames, rest => by
    obtain ⟨hitem, hitems⟩ := (Bool.and_eq_true _ _).mp h
    -- the item is read inside the open array, which then holds it as its first
    rw [tokens, List.cons_append, List.append_assoc, readValue?, readValue?_tokens item hitem,
      closeValue?_itemTokens items hitems, document, itemDocuments]
    · rfl
    · exact fun more => tokens_ne_closeArray hitem _ more
  | .object [], _, frames, rest => by
    rw [tokens, List.cons_append, List.singleton_append, readValue?, document, memberDocuments]
  | .object ((name, value) :: members), h, frames, rest => by
    obtain ⟨hvalue, hmembers⟩ := (Bool.and_eq_true _ _).mp h
    rw [tokens, List.cons_append, List.cons_append, List.cons_append, List.append_assoc,
      textToken, readValue?, readValue?_tokens value hvalue, unitsString?_unit,
      closeValue?_memberTokens members hmembers, document, memberDocuments]
    rfl

theorem closeValue?_itemTokens : (items : List Json) → areItemsExact items = true →
    (value : Document) → (done : List Document) → (frames : List Frame) → (rest : List Token) →
      closeValue? value (.array done :: frames) (itemTokens items ++ rest) =
        closeValue? (.array (done.reverse ++ value :: itemDocuments items)) frames rest
  | [], _, value, done, frames, rest => by
    rw [itemTokens, List.singleton_append, closeValue?, itemDocuments, List.reverse_cons]
  | item :: items, h, value, done, frames, rest => by
    obtain ⟨hitem, hitems⟩ := (Bool.and_eq_true _ _).mp h
    rw [itemTokens, List.cons_append, List.append_assoc, closeValue?,
      readValue?_tokens item hitem, closeValue?_itemTokens items hitems, itemDocuments,
      List.reverse_cons, List.append_assoc, List.singleton_append]

theorem closeValue?_memberTokens : (members : List (String × Json)) →
    areMembersExact members = true → (name : Option String) → (value : Document) →
      (done : List (Option String × Document)) → (frames : List Frame) → (rest : List Token) →
        closeValue? value (.object done name :: frames) (memberTokens members ++ rest) =
          closeValue? (.object (done.reverse ++ (name, value) :: memberDocuments members))
            frames rest
  | [], _, name, value, done, frames, rest => by
    rw [memberTokens, List.singleton_append, closeValue?, memberDocuments, List.reverse_cons]
  | (next, inner) :: members, h, name, value, done, frames, rest => by
    obtain ⟨hinner, hmembers⟩ := (Bool.and_eq_true _ _).mp h
    rw [memberTokens, List.cons_append, List.cons_append, List.cons_append, List.append_assoc,
      textToken, closeValue?, readValue?_tokens inner hinner, unitsString?_unit,
      closeValue?_memberTokens members hmembers, memberDocuments, List.reverse_cons,
      List.append_assoc, List.singleton_append]

end

/-- The compact text of a value is read as its document. -/
theorem read?_of_isExact {j : Json} (h : j.isExact = true) :
    Document.read? j.compact = some j.document := by
  have hv := readValue?_tokens j h [] []
  rw [List.append_nil] at hv
  rw [Document.read?, compact, String.toList_ofList, tokens?_chars h, Option.bind_some, hv,
    closeValue?]

theorem read?_compact {j : Json} (h : j.isWhole = true) :
    Document.read? j.compact = some j.document :=
  read?_of_isExact (isExact_of_isWhole j h)

end PolicyGuard.Json
