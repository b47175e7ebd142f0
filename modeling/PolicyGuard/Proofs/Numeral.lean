import Mathlib.Data.List.TakeWhile
import PolicyGuard.Number.Int64
import PolicyGuard.Proofs.Digits
import PolicyGuard.Proofs.Scan

/-!
Texts that are read as numbers.

A text is read as a whole number of 64 bits or as a floating point number, after an optional
sign. Where it is both, the two are equal.

* `read?_eq_nan_iff`: the texts that are read as no number at all;
* `compare?_of_readInt64?`: a whole number is equal to what its text is read as otherwise;
* `startsNumber_of_read?`, `startsNumber_plain`: how the text of a number starts.
-/

namespace PolicyGuard

/-! ## Order -/

namespace Binary64

theorem compare?_self {x : Binary64} (h : x ≠ .nan) : x.compare? x = some .eq := by
  cases x with
  | nan => exact absurd rfl h
  | infinite negative => exact congrArg some Std.ReflCmp.compare_self
  | finite negative steps => exact congrArg some Std.ReflCmp.compare_self

theorem nan_compare? (x : Binary64) : compare? .nan x = none := by
  cases x <;> rfl

theorem ofRatio_ne_nan (negative : Bool) (num den : Nat) : ofRatio negative num den ≠ .nan := by
  unfold ofRatio
  dsimp only
  split <;> exact Binary64.noConfusion

theorem ofRatio_zero (negative : Bool) : ofRatio negative 0 1 = .finite negative 0 := by
  cases negative <;> decide +kernel

end Binary64

theorem Decimal.toBinary64_ne_nan (d : Decimal) : d.toBinary64 ≠ .nan := by
  unfold toBinary64
  split
  next => exact Binary64.noConfusion
  next =>
    split
    next =>
      split
      · exact Binary64.noConfusion
      · exact Binary64.ofRatio_ne_nan _ _ _
    next =>
      split
      · exact Binary64.noConfusion
      · exact Binary64.ofRatio_ne_nan _ _ _

/-! ## Signs -/

/-- Whether a minus sign stands in front of a text, and the text without its sign. -/
def splitSign : List Char → Bool × List Char
  | '-' :: rest => (true, rest)
  | '+' :: rest => (false, rest)
  | rest => (false, rest)

/-- A text without the sign in front of it. -/
def unsigned (text : List Char) : List Char :=
  (splitSign text).2

/-- A text is its own without a sign, or it starts with one. -/
theorem unsigned_cases (text : List Char) :
    unsigned text = text ∨ ∃ sign ∈ ['-', '+'], text = sign :: unsigned text := by
  unfold unsigned splitSign
  split
  · exact .inr ⟨'-', by decide, rfl⟩
  · exact .inr ⟨'+', by decide, rfl⟩
  · exact .inl rfl

theorem Binary64.read?_eq (text : List Char) :
    read? text = (special? (splitSign text).1 (unsigned text)).or
      ((Decimal.unsigned? (splitSign text).1 (unsigned text)).map Decimal.toBinary64) := by
  rfl

theorem readInt64?_eq (text : List Char) :
    readInt64? text =
      if (unsigned text).isEmpty || !(unsigned text).all Char.isDigit then none
      else if inInt64 (Binary64.signed (splitSign text).1 (digitsValue (unsigned text))) then
        some (Binary64.signed (splitSign text).1 (digitsValue (unsigned text)))
      else none := by
  rfl

/-! ## No number -/

/-- Whether a text is `nan` in any case, after an optional sign. -/
def SpellsNan (text : List Char) : Prop :=
  (unsigned text).map Char.toLower = "nan".toList

instance (text : List Char) : Decidable (SpellsNan text) :=
  inferInstanceAs (Decidable (_ = _))

theorem Binary64.special?_eq_nan_iff {negative : Bool} {cs : List Char} :
    special? negative cs = some .nan ↔ cs.map Char.toLower = "nan".toList := by
  unfold special?
  dsimp only
  split
  next h =>
    refine iff_of_false (by simp) fun hn => ?_
    rw [hn] at h
    exact absurd h (by decide)
  next =>
    split
    next hn => exact iff_of_true rfl hn
    next hn => exact iff_of_false (by simp) hn

theorem Binary64.read?_eq_nan_iff {text : List Char} : read? text = some .nan ↔ SpellsNan text := by
  rw [read?_eq, Option.or_eq_some_iff, special?_eq_nan_iff, SpellsNan]
  refine or_iff_left fun ⟨_, h⟩ => ?_
  obtain ⟨d, -, hd⟩ := Option.map_eq_some_iff.mp h
  exact d.toBinary64_ne_nan hd

/-! ## Whole numbers -/

theorem toLower_of_isDigit {c : Char} (h : c.isDigit = true) : c.toLower = c := by
  have hle : c.toNat ≤ 57 := (Char.isDigit_iff_toNat.mp h).2
  have hn : ¬(c.val ≥ 65 ∧ c.val ≤ 90) := fun hc =>
    absurd (UInt32.le_iff_toNat_le.mp hc.1) (Nat.not_le.mpr (Nat.lt_of_le_of_lt hle (by decide)))
  exact dif_neg hn

/-- The words that are read as a number, in lower case. -/
def numberWords : List (List Char) :=
  ["inf".toList, "infinity".toList, "nan".toList]

theorem Binary64.mem_of_special? {negative : Bool} {cs : List Char} {x : Binary64}
    (h : special? negative cs = some x) : cs.map Char.toLower ∈ numberWords := by
  unfold special? at h
  dsimp only at h
  split at h
  next hi =>
    rcases (Bool.or_eq_true _ _).mp hi with hi | hi
    · rw [of_decide_eq_true hi]
      decide
    · rw [of_decide_eq_true hi]
      decide
  next =>
    split at h
    next hn =>
      rw [hn]
      decide
    next => cases h

theorem Binary64.special?_of_digits {ds : List Char} (hd : ∀ c ∈ ds, c.isDigit = true)
    (negative : Bool) : special? negative ds = none := by
  have hlower : ds.map Char.toLower = ds :=
    (List.map_congr_left fun c hc => toLower_of_isDigit (hd c hc)).trans (List.map_id ds)
  have hwords : ∀ word ∈ numberWords, word.all Char.isDigit = false := by
    decide
  refine Option.eq_none_iff_forall_ne_some.mpr fun x hx => ?_
  have hm := mem_of_special? hx
  rw [hlower] at hm
  have hall := hwords ds hm
  rw [List.all_eq_true.mpr hd] at hall
  cases hall

theorem Decimal.unsigned?_of_digits {ds : List Char} (hd : ∀ c ∈ ds, c.isDigit = true)
    (hn : ds ≠ []) (negative : Bool) :
    unsigned? negative ds = some ⟨negative, digitsValue ds, 0⟩ := by
  have ht : ds.takeWhile Char.isDigit = ds := List.takeWhile_eq_self_iff.mpr hd
  have hr : ds.dropWhile Char.isDigit = [] := List.dropWhile_eq_nil_iff.mpr hd
  have hempty : ds.isEmpty = false := List.isEmpty_eq_false_iff.mpr hn
  simp [unsigned?, ht, hr, hempty, exponent?]

theorem Binary64.natAbs_signed (negative : Bool) (m : Nat) : (signed negative m).natAbs = m := by
  cases negative <;> simp [signed]

theorem natAbs_lt_of_inInt64 {i : Int} (h : inInt64 i = true) : i.natAbs < Nat.pow 2 64 := by
  rw [inInt64, Bool.and_eq_true] at h
  have hlow := of_decide_eq_true h.1
  have hhigh := of_decide_eq_true h.2
  have hlt : i.natAbs < 18446744073709551616 := by
    omega
  exact hlt

/-- A whole number is equal to the decimal with its digits, also where it is zero and the decimal
has a sign. -/
theorem Decimal.compare?_ofInt {negative : Bool} {m : Nat} (hm : m < Nat.pow 2 64) :
    (Decimal.toBinary64 ⟨negative, m, 0⟩).compare? (.ofInt (Binary64.signed negative m)) =
      some .eq := by
  by_cases hzero : m = 0
  · subst hzero
    have hsigned : Binary64.signed negative 0 = 0 := by
      cases negative <;> rfl
    have hof : Binary64.ofInt 0 = .finite false 0 := Binary64.ofRatio_zero false
    have hto : Decimal.toBinary64 ⟨negative, 0, 0⟩ = .finite negative 0 := if_pos rfl
    rw [hsigned, hof, hto]
    cases negative <;> rfl
  · have hlog : m.log2 < 64 := (Nat.log2_lt hzero).mpr hm
    have hfits : ¬1024 ≤ m.log2 + 3 * 0 := by
      omega
    have hto : Decimal.toBinary64 ⟨negative, m, 0⟩ = .ofRatio negative m 1 := by
      have hone : m * Nat.pow 10 0 = m := Nat.mul_one m
      have hof : Decimal.toBinary64 ⟨negative, m, 0⟩ =
          if m = 0 then .finite negative 0
          else if 1024 ≤ m.log2 + 3 * 0 then .infinite negative
          else .ofRatio negative (m * Nat.pow 10 0) 1 := rfl
      rw [hof, if_neg hzero, if_neg hfits, hone]
    have hsign : decide (Binary64.signed negative m < 0) = negative := by
      cases negative with
      | false => simp [Binary64.signed]
      | true =>
        refine decide_eq_true ?_
        simp only [Binary64.signed, if_true]
        omega
    rw [hto, Binary64.ofInt, hsign, Binary64.natAbs_signed]
    exact Binary64.compare?_self (Binary64.ofRatio_ne_nan _ _ _)

/-- A whole number is equal to what its text is read as otherwise. -/
theorem compare?_of_readInt64? {text : List Char} {i : Int} (h : readInt64? text = some i) :
    ∃ x, Binary64.read? text = some x ∧ x.compare? (.ofInt i) = some .eq := by
  rw [readInt64?_eq, Option.ite_none_left_eq_some, Option.ite_none_right_eq_some] at h
  obtain ⟨hdigits, hrange, hi⟩ := h
  simp only [Bool.or_eq_true, not_or, Bool.not_eq_true, Bool.not_eq_false',
    List.isEmpty_eq_false_iff, List.all_eq_true] at hdigits
  obtain ⟨hn, hd⟩ := hdigits
  have hm := natAbs_lt_of_inInt64 hrange
  rw [Binary64.natAbs_signed] at hm
  refine ⟨_, ?_, Option.some.inj hi ▸ Decimal.compare?_ofInt hm⟩
  rw [Binary64.read?_eq, Binary64.special?_of_digits hd, Decimal.unsigned?_of_digits hd hn,
    Option.none_or, Option.map_some]

/-! ## The start of a number -/

/-- Whether the text of a number can start with a character, in any case. -/
def startsNumber (c : Char) : Bool :=
  c.isDigit || ['+', '-', '.', 'i', 'n'].contains c.toLower

theorem startsNumber_of_special? {negative : Bool} {cs : List Char} {x : Binary64}
    (h : Binary64.special? negative cs = some x) : ∃ c rest, cs = c :: rest ∧ startsNumber c := by
  have hword := Binary64.mem_of_special? h
  cases cs with
  | nil => exact absurd hword (by decide)
  | cons c rest =>
    have hhead : ∀ word ∈ numberWords,
        (word.head?.any ['+', '-', '.', 'i', 'n'].contains) = true := by
      decide
    have hc : ['+', '-', '.', 'i', 'n'].contains c.toLower = true := hhead _ hword
    refine ⟨c, rest, rfl, ?_⟩
    rw [startsNumber, hc, Bool.or_true]

theorem startsNumber_of_unsigned? {negative : Bool} {cs : List Char} {d : Decimal}
    (h : Decimal.unsigned? negative cs = some d) : ∃ c rest, cs = c :: rest ∧ startsNumber c := by
  cases cs with
  | nil => cases h
  | cons c rest =>
    refine ⟨c, rest, rfl, ?_⟩
    by_cases hd : c.isDigit = true
    · rw [startsNumber, hd, Bool.true_or]
    · by_cases hc : c = '.'
      · rw [hc]
        rfl
      · simp [Decimal.unsigned?, hd, hc] at h

theorem startsNumber_of_read? {text : List Char} {x : Binary64}
    (h : Binary64.read? text = some x) : ∃ c rest, text = c :: rest ∧ startsNumber c := by
  rcases unsigned_cases text with hu | ⟨sign, hs, ht⟩
  · rw [Binary64.read?_eq, hu, Option.or_eq_some_iff, Option.map_eq_some_iff] at h
    rcases h with h | ⟨-, d, h, -⟩
    · exact startsNumber_of_special? h
    · exact startsNumber_of_unsigned? h
  · have hsign : ∀ sign ∈ ['-', '+'], startsNumber sign = true :=
      Text.forall_mem_of_all (by decide)
    exact ⟨sign, _, ht, hsign sign hs⟩

theorem startsNumber_positional (digits : Nat) (exponent : Int) :
    ∃ c rest, Binary64.positional digits exponent = c :: rest ∧ startsNumber c := by
  obtain ⟨d, ds, hds, hd⟩ := exists_digitsOf digits
  have hs : startsNumber d = true := by
    rw [startsNumber, hd, Bool.true_or]
  unfold Binary64.positional
  dsimp only
  rw [hds]
  split
  next => exact ⟨d, _, rfl, hs⟩
  next =>
    split
    next hpoint =>
      obtain ⟨k, hk⟩ := Nat.exists_eq_add_one.mpr (Int.pos_iff_toNat_pos.mp hpoint)
      rw [hk]
      exact ⟨d, _, rfl, hs⟩
    next => exact ⟨'0', _, rfl, rfl⟩

/-- The plain text of a number starts as a number does. -/
theorem startsNumber_plain (x : Binary64) :
    ∃ c rest, x.plain.toList = c :: rest ∧ startsNumber c := by
  cases x with
  | nan => exact ⟨_, _, rfl, rfl⟩
  | infinite negative => cases negative <;> exact ⟨_, _, rfl, rfl⟩
  | finite negative steps =>
    have htext : (Binary64.plain (.finite negative steps)).toList =
        (if negative then ['-'] else []) ++ Binary64.positional
          (Binary64.shortest .up steps).1 (Binary64.shortest .up steps).2 :=
      String.toList_ofList
    rw [htext]
    cases negative with
    | true => exact ⟨'-', _, rfl, rfl⟩
    | false => exact startsNumber_positional _ _

end PolicyGuard
