import Mathlib.Algebra.Order.Ring.Int
import Mathlib.Algebra.Order.Ring.Unbundled.Basic
import Mathlib.Order.Compare
import PolicyGuard.Proofs.Numeral

/-!
Whole numbers as floating point numbers.

A whole number of 64 bits becomes a number with 53 significant bits that is nearest to it. Whole
numbers compare as what they become. Rounding keeps the order, so they compare as they do themselves
unless they become the same number.

* `dist_roundToEven`: how far a rounded quotient is from the quotient;
* `rounded_eq_self`, `held_rounded`, `dist_rounded_le`: sizes with 53 bits;
* `isNearest_nearest`, `IsNearest.mono`, `compare?_ofInt`: whole numbers.
-/

namespace PolicyGuard

/-! ## Rounded quotients -/

theorem le_roundToEven (num den : Nat) : num / den ≤ roundToEven num den := by
  unfold roundToEven
  dsimp only
  split <;> omega

theorem roundToEven_le (num den : Nat) : roundToEven num den ≤ num / den + 1 := by
  unfold roundToEven
  dsimp only
  split <;> omega

/-- The product with the divisor is within half of it. -/
theorem dist_roundToEven (num : Nat) {den : Nat} (hd : 0 < den) :
    2 * num ≤ 2 * (roundToEven num den * den) + den ∧
      2 * (roundToEven num den * den) ≤ 2 * num + den := by
  have hdiv := Nat.div_add_mod num den
  have hmod := Nat.mod_lt num hd
  rw [Nat.mul_comm] at hdiv
  unfold roundToEven
  dsimp only
  split
  next h =>
    rw [Bool.or_eq_true, Bool.and_eq_true] at h
    have hhalf : 2 * (num % den) ≤ den := by
      rcases h with h | h
      · exact Nat.le_of_lt (of_decide_eq_true h)
      · exact Nat.le_of_eq (of_decide_eq_true h.1)
    omega
  next h =>
    rw [Bool.or_eq_true, not_or] at h
    have hhalf : den ≤ 2 * (num % den) := Nat.not_lt.mp fun hlt => h.1 (decide_eq_true hlt)
    rw [Nat.add_mul, Nat.one_mul]
    omega

theorem roundToEven_mul (q : Nat) {den : Nat} (hd : 0 < den) : roundToEven (q * den) den = q := by
  simp [roundToEven, Nat.mul_div_cancel q hd, hd]

/-- A factor of both parts does not matter. -/
theorem roundToEven_mul_mul (num den : Nat) {c : Nat} (hc : 0 < c) :
    roundToEven (num * c) (den * c) = roundToEven num den := by
  have htwice : 2 * (num % den * c) = 2 * (num % den) * c := (Nat.mul_assoc ..).symm
  have hlt : 2 * (num % den) * c < den * c ↔ 2 * (num % den) < den := Nat.mul_lt_mul_right hc
  have heq : 2 * (num % den) * c = den * c ↔ 2 * (num % den) = den :=
    Nat.mul_left_inj (Nat.ne_of_gt hc)
  simp only [roundToEven, Nat.mul_div_mul_right _ _ hc, Nat.mul_mod_mul_right, htwice, hlt, heq]

namespace Binary64

/-! ## Sizes of 53 bits -/

/-- The sizes that a number with 53 significant bits can have, if it is whole. -/
def Held (n : Nat) : Prop :=
  ∃ m k, m < 2 ^ 53 ∧ n = m * 2 ^ k

/-- The size among these that is nearest to `n`; of two nearest ones the even one. -/
def rounded (n : Nat) : Nat :=
  roundToEven n (spacing n) * spacing n

theorem spacing_eq (n : Nat) : spacing n = 2 ^ (n.log2 - 52) :=
  rfl

theorem spacing_pos (n : Nat) : 0 < spacing n :=
  Nat.two_pow_pos _

theorem spacing_of_lt {n : Nat} (h : n < 2 ^ 53) : spacing n = 1 := by
  have hlog : n.log2 - 52 = 0 := by
    by_cases hn : n = 0
    · rw [hn, Nat.log2_zero]
    · have := (Nat.log2_lt hn).mpr h
      omega
  rw [spacing_eq, hlog, Nat.pow_zero]

/-- From 2^52 on the quotient by the spacing has 53 bits. -/
theorem spacing_bounds {n : Nat} (h : 2 ^ 52 ≤ n) :
    2 ^ 52 * spacing n ≤ n ∧ n < 2 ^ 53 * spacing n := by
  have hn : n ≠ 0 := Nat.ne_of_gt (Nat.lt_of_lt_of_le (Nat.two_pow_pos 52) h)
  have hlog : 52 ≤ n.log2 := (Nat.le_log2 hn).mpr h
  have hlow : 52 + (n.log2 - 52) = n.log2 := by
    omega
  have hhigh : 53 + (n.log2 - 52) = n.log2 + 1 := by
    omega
  rw [spacing_eq, ← Nat.pow_add, ← Nat.pow_add, hlow, hhigh]
  exact ⟨Nat.log2_self_le hn, Nat.lt_log2_self⟩

theorem rounded_of_lt {n : Nat} (h : n < 2 ^ 53) : rounded n = n := by
  have hone := roundToEven_mul n Nat.one_pos
  rw [Nat.mul_one] at hone
  rw [rounded, spacing_of_lt h, Nat.mul_one, hone]

theorem rounded_eq_self {n : Nat} (h : n ≤ 2 ^ 53) : rounded n = n := by
  rcases Nat.lt_or_eq_of_le h with hlt | rfl
  · exact rounded_of_lt hlt
  · decide +kernel

theorem rounded_bounds {n : Nat} (h : 2 ^ 52 ≤ n) :
    2 ^ 52 * spacing n ≤ rounded n ∧ rounded n ≤ 2 ^ 53 * spacing n := by
  obtain ⟨hlow, hhigh⟩ := spacing_bounds h
  have hfloor : 2 ^ 52 ≤ n / spacing n := (Nat.le_div_iff_mul_le (spacing_pos n)).mpr hlow
  have hceil : n / spacing n < 2 ^ 53 := (Nat.div_lt_iff_lt_mul (spacing_pos n)).mpr hhigh
  have hl := le_roundToEven n (spacing n)
  have hu := roundToEven_le n (spacing n)
  exact ⟨Nat.mul_le_mul_right _ (Nat.le_trans hfloor hl),
    Nat.mul_le_mul_right _ (Nat.le_trans hu hceil)⟩

theorem held_rounded (n : Nat) : Held (rounded n) := by
  by_cases h : n < 2 ^ 53
  · rw [rounded_of_lt h]
    exact ⟨n, 0, h, (Nat.mul_one n).symm⟩
  · have hle : roundToEven n (spacing n) ≤ 2 ^ 53 :=
      Nat.le_of_mul_le_mul_right (rounded_bounds (by omega)).2 (spacing_pos n)
    rcases Nat.lt_or_eq_of_le hle with hlt | heq
    · exact ⟨_, _, hlt, rfl⟩
    · refine ⟨2 ^ 52, n.log2 - 52 + 1, by decide, ?_⟩
      rw [rounded, heq, spacing_eq, Nat.pow_succ]
      omega

/-- A size of 53 bits is a multiple of the spacing around `n`, or far below `n`. -/
theorem Held.cases {y : Nat} (hy : Held y) (n : Nat) :
    (∃ q, y = q * spacing n) ∨ y ≤ 2 ^ 52 * spacing n := by
  obtain ⟨m, k, hm, rfl⟩ := hy
  by_cases hk : n.log2 - 52 ≤ k
  · refine .inl ⟨m * 2 ^ (k - (n.log2 - 52)), ?_⟩
    rw [spacing_eq, Nat.mul_assoc, ← Nat.pow_add, Nat.sub_add_cancel hk]
  · refine .inr ?_
    have hpow : 2 * 2 ^ k ≤ spacing n := by
      rw [spacing_eq, Nat.mul_comm, ← Nat.pow_succ]
      exact Nat.pow_le_pow_right (by decide) (by omega)
    have hle : m * 2 ^ k ≤ 2 ^ 53 * 2 ^ k := Nat.mul_le_mul_right _ (Nat.le_of_lt hm)
    omega

theorem dist_rounded_mul (n q : Nat) :
    ((rounded n : Int) - n).natAbs ≤ (((q * spacing n : Nat) : Int) - n).natAbs := by
  have hd := dist_roundToEven n (spacing_pos n)
  unfold rounded
  rcases Nat.lt_trichotomy q (roundToEven n (spacing n)) with hlt | rfl | hgt
  · have hstep := Nat.mul_le_mul_right (spacing n) (Nat.succ_le_of_lt hlt)
    rw [Nat.succ_mul] at hstep
    omega
  · exact Nat.le_refl _
  · have hstep := Nat.mul_le_mul_right (spacing n) (Nat.succ_le_of_lt hgt)
    rw [Nat.succ_mul] at hstep
    omega

/-- No size of 53 bits is nearer. -/
theorem dist_rounded_le {y : Nat} (hy : Held y) (n : Nat) :
    ((rounded n : Int) - n).natAbs ≤ ((y : Int) - n).natAbs := by
  by_cases h : n < 2 ^ 53
  · rw [rounded_of_lt h]
    omega
  · rcases hy.cases n with ⟨q, rfl⟩ | hfar
    · exact dist_rounded_mul n q
    · have hlow := (spacing_bounds (n := n) (by omega)).1
      have hd := dist_rounded_mul n (2 ^ 52)
      omega

/-- Rounding does not depend on the place of the point. -/
theorem rounded_shift {n p : Nat} (hn : n ≠ 0) (hp : 52 ≤ p) :
    rounded (n * 2 ^ p) = rounded n * 2 ^ p := by
  have hlog : (n * 2 ^ p).log2 = n.log2 + p := by
    refine (Nat.log2_eq_iff (Nat.mul_ne_zero hn (Nat.ne_of_gt (Nat.two_pow_pos p)))).mpr ?_
    rw [Nat.pow_add, Nat.add_right_comm, Nat.pow_add]
    exact ⟨Nat.mul_le_mul_right _ (Nat.log2_self_le hn),
      Nat.mul_lt_mul_of_pos_right Nat.lt_log2_self (Nat.two_pow_pos p)⟩
  by_cases h : 52 ≤ n.log2
  · have hs : spacing (n * 2 ^ p) = spacing n * 2 ^ p := by
      rw [spacing_eq, spacing_eq, hlog, ← Nat.pow_add]
      congr 1
      omega
    rw [rounded, hs, roundToEven_mul_mul _ _ (Nat.two_pow_pos p), ← Nat.mul_assoc]
    rfl
  · have hsmall : n < 2 ^ 53 := by
      have := (Nat.log2_lt hn).mp (Nat.not_le.mp h)
      omega
    have hs : 2 ^ p = 2 ^ (52 - n.log2) * spacing (n * 2 ^ p) := by
      rw [spacing_eq, hlog, ← Nat.pow_add]
      congr 1
      omega
    have hmul : n * 2 ^ p = n * 2 ^ (52 - n.log2) * spacing (n * 2 ^ p) := by
      rw [Nat.mul_assoc, ← hs]
    have hround : roundToEven (n * 2 ^ p) (spacing (n * 2 ^ p)) = n * 2 ^ (52 - n.log2) := by
      conv_lhs => arg 1; rw [hmul]
      exact roundToEven_mul _ (spacing_pos _)
    rw [rounded, hround, ← hmul, rounded_of_lt hsmall]

theorem rounded_le {n : Nat} (hn : n ≠ 0) : 2 * rounded n ≤ 3 * n := by
  have hd := (dist_roundToEven n (spacing_pos n)).2
  have hle : spacing n ≤ n := by
    rw [spacing_eq]
    exact Nat.le_trans (Nat.pow_le_pow_right (by decide) (Nat.sub_le _ _)) (Nat.log2_self_le hn)
  unfold rounded
  omega

theorem ofRatio_one (negative : Bool) (n : Nat) :
    ofRatio negative n 1 =
      if rounded (n * scale) < overflow then .finite negative (rounded (n * scale))
      else .infinite negative := by
  unfold ofRatio rounded
  dsimp only
  rw [Nat.div_one, Nat.one_mul]

theorem exists_scale_eq : ∃ p, 52 ≤ p ∧ scale = 2 ^ p :=
  ⟨1074, by decide, by decide +kernel⟩

theorem scale_pos : 0 < scale := by
  decide +kernel

theorem mul_scale_lt_overflow : 2 ^ 65 * scale < overflow := by
  decide +kernel

theorem ofRatio_of_lt (negative : Bool) {n : Nat} (h : n < 2 ^ 64) :
    ofRatio negative n 1 = .finite negative (rounded n * scale) := by
  by_cases hn : n = 0
  · subst hn
    rw [ofRatio_zero, rounded_of_lt (Nat.two_pow_pos 53), Nat.zero_mul]
  · have hshift : rounded (n * scale) = rounded n * scale := by
      obtain ⟨p, hp, hscale⟩ := exists_scale_eq
      rw [hscale, rounded_shift hn hp]
    have hlt : rounded n ≤ 2 ^ 65 := by
      have := rounded_le hn
      omega
    have hfits : rounded n * scale < overflow :=
      Nat.lt_of_le_of_lt (Nat.mul_le_mul_right scale hlt) mul_scale_lt_overflow
    rw [ofRatio_one, hshift, if_pos hfits]

/-! ## Whole numbers -/

/-- What a whole number becomes. -/
def nearest (i : Int) : Int :=
  signed (i < 0) (rounded i.natAbs)

/-- A number with 53 significant bits that is no farther from a whole number than any other. -/
structure IsNearest (i x : Int) : Prop where
  held : Held x.natAbs
  least : ∀ y : Int, Held y.natAbs → (x - i).natAbs ≤ (y - i).natAbs

theorem isNearest_nearest (i : Int) : IsNearest i (nearest i) where
  held := by
    rw [nearest, natAbs_signed]
    exact held_rounded _
  least y hy := by
    have hd := dist_rounded_le hy i.natAbs
    unfold nearest signed
    by_cases h : i < 0
    · simp only [h, decide_true, if_true]
      omega
    · simp only [h, decide_false, Bool.false_eq_true, if_false]
      omega

/-- Nearest numbers are in order. -/
theorem IsNearest.mono {i j x y : Int} (hx : IsNearest i x) (hy : IsNearest j y) (h : i < j) :
    x ≤ y := by
  have hxy := hx.least y hy.held
  have hyx := hy.least x hx.held
  omega

theorem signed_natAbs (i : Int) : signed (i < 0) i.natAbs = i := by
  unfold signed
  by_cases h : i < 0
  · simp only [h, decide_true, if_true]
    omega
  · simp only [h, decide_false, Bool.false_eq_true, if_false]
    omega

theorem nearest_eq_self {i : Int} (h : i.natAbs ≤ 2 ^ 53) : nearest i = i := by
  rw [nearest, rounded_eq_self h, signed_natAbs]

theorem ofInt_eq {i : Int} (h : inInt64 i = true) :
    ofInt i = .finite (i < 0) (rounded i.natAbs * scale) :=
  ofRatio_of_lt _ (natAbs_lt_of_inInt64 h)

theorem signed_mul (negative : Bool) (m c : Nat) :
    signed negative (m * c) = signed negative m * c := by
  cases negative <;> simp [signed]

/-- Whole numbers compare as what they become. -/
theorem compare?_ofInt {a b : Int} (ha : inInt64 a = true) (hb : inInt64 b = true) :
    (ofInt a).compare? (ofInt b) = some (compare (nearest a) (nearest b)) := by
  have hpos : (0 : Int) < scale := Int.natCast_pos.mpr scale_pos
  rw [ofInt_eq ha, ofInt_eq hb, compare?, signed_mul, signed_mul, ← cmp_eq_compare,
    cmp_mul_pos_right hpos, cmp_eq_compare]
  rfl

end Binary64

end PolicyGuard
