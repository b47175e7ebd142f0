import PolicyGuard.Event.Timestamp

/-!
Digits of whole numbers, written and read.

* `digitsValue_digitsOf`, `digitsOf_of_head`: the digits of a number, without a zero in front;
* `length_padded`, `digitsValue_padded`: those with zeros up to a width.
-/

namespace PolicyGuard

open Binary64 (digitsOf)

/-- The digits of a number, in any base. -/
theorem exists_of_mem_toDigits {b n : Nat} (hb : 1 < b) {c : Char} (hc : c ∈ Nat.toDigits b n) :
    ∃ d < b, c = Nat.digitChar d := by
  induction n using Nat.strongRecOn with
  | ind n ih =>
    rw [Nat.toDigits_eq_if hb] at hc
    split at hc
    next hn => exact ⟨n, hn, List.mem_singleton.mp hc⟩
    next hn =>
      rcases List.mem_append.mp hc with hc | hc
      · exact ih _ (Nat.div_lt_self (by omega) hb) hc
      · exact ⟨n % b, Nat.mod_lt _ (by omega), List.mem_singleton.mp hc⟩

theorem digitsValue_digitsOf (n : Nat) : digitsValue (digitsOf n) = n :=
  Nat.ofDigitChars_toDigits (by decide) (by decide)

theorem isDigit_of_mem_digitsOf {n : Nat} {c : Char} (hc : c ∈ digitsOf n) : c.isDigit = true :=
  Nat.isDigit_of_mem_toDigits (by decide) (by decide) hc

theorem digitsOf_ne_nil (n : Nat) : digitsOf n ≠ [] :=
  Nat.toDigits_ne_nil

/-- A number starts with a digit. -/
theorem exists_digitsOf (n : Nat) : ∃ d ds, digitsOf n = d :: ds ∧ d.isDigit = true := by
  cases h : digitsOf n with
  | nil => exact absurd h (digitsOf_ne_nil n)
  | cons d ds => exact ⟨d, ds, rfl, isDigit_of_mem_digitsOf (h ▸ List.mem_cons_self)⟩

/-- Only zero is written with a zero in front. -/
theorem digitsOf_of_head {n : Nat} (h : (digitsOf n).head? = some '0') : digitsOf n = ['0'] := by
  unfold digitsOf at h ⊢
  induction n using Nat.strongRecOn with
  | ind n ih =>
    rw [Nat.toDigits_eq_if (by decide)] at h ⊢
    split at h
    next hn =>
      rw [if_pos hn]
      exact congrArg ([·]) (Option.some.inj h)
    next hn =>
      have hsome : (Nat.toDigits 10 (n / 10)).head?.isSome := by
        simp [Nat.toDigits_ne_nil]
      rw [List.head?_append, Option.or_of_isSome hsome] at h
      have hzero := ih _ (Nat.div_lt_self (by omega) (by decide)) h
      -- then the digits in front are those of zero, so there are none
      have hvalue : n / 10 = 0 := by
        rw [← digitsValue_digitsOf (n / 10), digitsOf, hzero]
        rfl
      omega

theorem toList_toString (n : Nat) : (toString n).toList = digitsOf n := by
  simp [digitsOf, toString]

/-! ## Digits of a fixed width -/

namespace Timestamp

theorem isDigit_of_mem_padded {width n : Nat} {c : Char} (hc : c ∈ padded width n) :
    c.isDigit = true := by
  rcases List.mem_append.mp hc with hc | hc
  · rw [List.eq_of_mem_replicate hc]
    rfl
  · exact isDigit_of_mem_digitsOf hc

theorem padded_ne_nil (width n : Nat) : padded width n ≠ [] :=
  List.append_ne_nil_of_right_ne_nil _ (digitsOf_ne_nil n)

theorem exists_padded (width n : Nat) : ∃ d ds, padded width n = d :: ds ∧ d.isDigit = true := by
  cases h : padded width n with
  | nil => exact absurd h (padded_ne_nil width n)
  | cons d ds => exact ⟨d, ds, rfl, isDigit_of_mem_padded (h ▸ List.mem_cons_self)⟩

theorem length_padded {width n : Nat} (hw : 0 < width) (hn : n < Nat.pow 10 width) :
    (padded width n).length = width := by
  have hl : (digitsOf n).length ≤ width := (Nat.length_toDigits_le_iff (by decide) hw).mpr hn
  simp only [padded, List.length_append, List.length_replicate]
  omega

theorem digitsValue_padded (width n : Nat) : digitsValue (padded width n) = n := by
  have hz : ∀ k, digitsValue (List.replicate k '0') = 0 := by
    intro k
    induction k with
    | zero => rfl
    | succ k ih =>
      rw [List.replicate_succ', digitsValue, List.foldl_append]
      exact congrArg (10 * · + 0) ih
  have hv := digitsValue_digitsOf n
  unfold digitsValue at hz hv ⊢
  rw [padded, List.foldl_append, hz, hv]

end Timestamp

end PolicyGuard
