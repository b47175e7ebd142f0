import PolicyGuard.Text.Lowercase

/-!
Lower case has no capitals of ASCII.

* `toLower_lowerChar`: one character;
* `lowerAscii_lower`: lower case of a text is its own lower case in ASCII.
-/

namespace PolicyGuard.Text

/-- Beyond the capitals of ASCII, `Char.toLower` changes nothing. -/
theorem toLower_of_lt {c : Char} (h : 90 < c.toNat) : c.toLower = c := by
  have hn : ¬ (c.val ≥ 65 ∧ c.val ≤ 90) := fun hc =>
    absurd (UInt32.le_iff_toNat_le.mp hc.2) (Nat.not_le.mpr h)
  exact dif_neg hn

theorem toLower_ofNat {n : Nat} (h : 90 < n) : (Char.ofNat n).toLower = Char.ofNat n := by
  by_cases hv : n.isValidChar
  · have hn : (Char.ofNat n).toNat = n := by
      rw [Char.ofNat, dif_pos hv]
      rfl
    exact toLower_of_lt (by rw [hn]; exact h)
  · rw [Char.ofNat, dif_neg hv]
    rfl

/-- No run leads to the capitals of ASCII. -/
theorem lt_of_covers {r : CaseRun} (hr : r ∈ lowerRuns) {n : Nat} (h : r.covers n = true) :
    90 < (n + r.shift).toNat := by
  have hall : ∀ r ∈ lowerRuns, 90 < (r.first : Int) + r.shift := by
    decide +kernel
  have hf : r.first ≤ n := by
    simp only [CaseRun.covers, Bool.and_eq_true, decide_eq_true_eq] at h
    exact h.1.1
  have hs := hall r hr
  omega

theorem toLower_toLower (c : Char) : c.toLower.toLower = c.toLower := by
  by_cases hc : c.toNat < 128
  · have hlow : ∀ n < 128, (Char.ofNat n).toLower.toLower = (Char.ofNat n).toLower := by
      decide
    rw [← Char.ofNat_toNat c]
    exact hlow c.toNat hc
  · have he : c.toLower = c := toLower_of_lt (by omega)
    rw [he, he]

theorem toLower_lowerChar (c : Char) : (lowerChar c).toLower = lowerChar c := by
  unfold lowerChar
  split
  next => exact toLower_toLower c
  next hc =>
    have hn : 90 < c.toNat :=
      Nat.lt_of_lt_of_le (by decide) (Nat.not_lt.mp (mt UInt32.lt_iff_toNat_lt.mpr hc))
    split
    next r hr =>
      have hcov : r.covers c.toNat = true := by
        simpa using List.find?_some hr
      exact toLower_ofNat (lt_of_covers (List.mem_of_find?_eq_some hr) hcov)
    next => exact toLower_of_lt hn

theorem toLower_of_mem_lowerAfter {before cs : List Char} {d : Char}
    (h : d ∈ lowerAfter before cs) : d.toLower = d := by
  induction cs generalizing before with
  | nil => cases h
  | cons c rest ih =>
    rcases List.mem_append.mp h with h | h
    · split at h
      next =>
        obtain rfl := List.mem_singleton.mp h
        split <;> decide
      next =>
        split at h
        next =>
          rcases List.mem_cons.mp h with rfl | h
          · rfl
          · obtain rfl := List.mem_singleton.mp h
            exact toLower_of_lt (by decide)
        next =>
          obtain rfl := List.mem_singleton.mp h
          exact toLower_lowerChar c
    · exact ih h

/-- Lower case has no capitals of ASCII left. -/
theorem lowerAscii_lower (s : String) : lowerAscii (lower s) = lower s := by
  have hm : (lowerAfter [] s.toList).map Char.toLower = (lowerAfter [] s.toList).map id :=
    List.map_congr_left fun d hd => toLower_of_mem_lowerAfter hd
  rw [lowerAscii, lower, String.toList_ofList, hm, List.map_id]

end PolicyGuard.Text
