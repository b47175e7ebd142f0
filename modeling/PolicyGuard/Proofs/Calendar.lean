import Mathlib.Data.List.TakeWhile
import PolicyGuard.Event.Timestamp
import PolicyGuard.Proofs.Digits
import PolicyGuard.Proofs.Scan

/-!
Points in time, read and written.

* `HasDay.next`, `HasDay.previous`: the days around a day of the calendar are days of it;
* `isValid_of_read?`: what is read is a point in time;
* `read?_text`, `read?_text_of_isValid`: it is read back from its text, whose year has a sign
  unless it is of four digits.
-/

namespace PolicyGuard

/-! ## Days -/

theorem daysInMonth_bounds (year : Int) (month : Nat) :
    28 ≤ daysInMonth year month ∧ daysInMonth year month ≤ 31 := by
  unfold daysInMonth
  split
  · split <;> decide
  · split <;> decide

namespace Date

variable {d : Date}

/-- A day of the calendar, in whatever year. -/
structure HasDay (d : Date) : Prop where
  month_pos : 1 ≤ d.month
  month_le : d.month ≤ 12
  day_pos : 1 ≤ d.day
  day_le : d.day ≤ daysInMonth d.year d.month

theorem isValid_iff : d.isValid = true ↔ d.hasYear = true ∧ d.HasDay := by
  simp only [isValid, Bool.and_eq_true, decide_eq_true_eq]
  constructor
  · rintro ⟨⟨⟨⟨hy, hm⟩, hm'⟩, hd⟩, hd'⟩
    exact ⟨hy, hm, hm', hd, hd'⟩
  · rintro ⟨hy, hm, hm', hd, hd'⟩
    exact ⟨⟨⟨⟨hy, hm⟩, hm'⟩, hd⟩, hd'⟩

theorem HasDay.next (h : d.HasDay) : d.next.HasDay := by
  unfold Date.next
  split
  next hlt => exact ⟨h.month_pos, h.month_le, by dsimp only; omega, hlt⟩
  next =>
    split
    next hlt =>
      have := daysInMonth_bounds d.year (d.month + 1)
      exact ⟨by dsimp only; omega, hlt, Nat.le_refl 1, by dsimp only; omega⟩
    next =>
      have := daysInMonth_bounds (d.year + 1) 1
      exact ⟨Nat.le_refl 1, (by decide : 1 ≤ 12), Nat.le_refl 1, by dsimp only; omega⟩

theorem HasDay.previous (h : d.HasDay) : d.previous.HasDay := by
  have hd := h.day_le
  have hm := h.month_le
  unfold Date.previous
  split
  next hlt => exact ⟨h.month_pos, hm, by dsimp only; omega, by dsimp only; omega⟩
  next =>
    split
    next hlt =>
      have := daysInMonth_bounds d.year (d.month - 1)
      exact ⟨by dsimp only; omega, by dsimp only; omega, by dsimp only; omega, Nat.le_refl _⟩
    next => exact ⟨(by decide : 1 ≤ 12), Nat.le_refl 12, (by decide : 1 ≤ 31), Nat.le_refl 31⟩

end Date

namespace Timestamp

variable {t : Timestamp}

/-- A time of day; the second 60 is a leap second. -/
structure OnClock (t : Timestamp) : Prop where
  hour_le : t.hour ≤ 23
  minute_le : t.minute ≤ 59
  second_le : t.second ≤ 60
  nanosecond_lt : t.nanosecond < 1000000000

theorem isValid_iff : t.isValid = true ↔ t.date.isValid = true ∧ t.OnClock := by
  simp only [isValid, Bool.and_eq_true, decide_eq_true_eq]
  constructor
  · rintro ⟨⟨⟨⟨hd, hh⟩, hm⟩, hs⟩, hn⟩
    exact ⟨hd, hh, hm, hs, hn⟩
  · rintro ⟨hd, hh, hm, hs, hn⟩
    exact ⟨⟨⟨⟨hd, hh⟩, hm⟩, hs⟩, hn⟩

/-! ## Moving to UTC -/

theorem onClock_toUtc (h : t.OnClock) (offset : Int) : (t.toUtc offset).OnClock := by
  refine ⟨?_, ?_, h.second_le, h.nanosecond_lt⟩
  · simp only [toUtc]
    omega
  · simp only [toUtc]
    omega

theorem hasDay_toUtc (h : t.date.HasDay) (offset : Int) : (t.toUtc offset).date.HasDay := by
  simp only [toUtc]
  split
  · exact h.previous
  · split
    · exact h.next
    · exact h

/-- What is read is a point in time. -/
theorem isValid_of_read? {s : String} (h : read? s = some t) : t.isValid = true := by
  simp only [read?, Option.bind_eq_bind, Option.bind_eq_some_iff] at h
  obtain ⟨_, -, _, -, _, -, _, -, _, -, _, -, _, -, _, -, ⟨offset, rest⟩, -, h⟩ := h
  rw [Option.ite_none_right_eq_some] at h
  obtain ⟨hcond, h⟩ := h
  simp only [Bool.and_eq_true] at hcond
  obtain ⟨⟨⟨-, hvalid⟩, -⟩, hyear⟩ := hcond
  obtain ⟨hdate, hclock⟩ := isValid_iff.mp hvalid
  cases h
  -- the year was looked at after the move to UTC, and the rest stays in range
  exact isValid_iff.mpr ⟨Date.isValid_iff.mpr
    ⟨hyear, hasDay_toUtc (Date.isValid_iff.mp hdate).2 offset⟩, onClock_toUtc hclock offset⟩

/-- A clock that agrees with UTC is left as it is. -/
theorem toUtc_zero (h : t.OnClock) : t.toUtc 0 = t := by
  have hh := h.hour_le
  have hm := h.minute_le
  obtain ⟨date, hour, minute, second, nanosecond⟩ := t
  dsimp only at hh hm
  have hlow : ¬((hour : Int) * 60 + minute - 0 < 0) := by omega
  have hhigh : ¬(24 * 60 ≤ (hour : Int) * 60 + minute - 0) := by omega
  have hhour : (((hour : Int) * 60 + minute - 0) % (24 * 60)).toNat / 60 = hour := by omega
  have hminute : (((hour : Int) * 60 + minute - 0) % (24 * 60)).toNat % 60 = minute := by omega
  simp only [toUtc, hlow, hhigh, hhour, hminute, if_false]

/-! ## Reading what was written -/

theorem isBlank_of_isDigit {c : Char} (h : c.isDigit = true) : Text.isBlank c = false := by
  simp only [Char.isDigit, Bool.and_eq_true, decide_eq_true_eq, ge_iff_le,
    UInt32.le_iff_toNat_le] at h
  have hn : 48 ≤ c.toNat ∧ c.toNat ≤ 57 := h
  simp [Text.isBlank]
  omega

/-- Digits have no blanks in front of them. -/
theorem skipBlanks_padded (width n : Nat) (rest : List Char) :
    Text.skipBlanks (padded width n ++ rest) = padded width n ++ rest := by
  obtain ⟨c, cs, hp, hc⟩ := exists_padded width n
  rw [hp]
  exact List.dropWhile_cons_of_neg (by simp [isBlank_of_isDigit hc])

/-- A number is taken where all of its digits are seen, and no others. -/
theorem takeNumber?_of_digits {most width n : Nat} {rest : List Char}
    (h : ((padded width n ++ rest).take most).takeWhile Char.isDigit = padded width n) :
    takeNumber? most (padded width n ++ rest) = some (n, rest) := by
  have he : (padded width n).isEmpty = false :=
    List.isEmpty_eq_false_iff.mpr (padded_ne_nil width n)
  simp only [takeNumber?, h, he, digitsValue_padded, List.drop_left, Bool.false_eq_true, if_false]

theorem takeNumber?_padded {width n : Nat} (hw : 0 < width) (hn : n < Nat.pow 10 width)
    (rest : List Char) : takeNumber? width (padded width n ++ rest) = some (n, rest) := by
  apply takeNumber?_of_digits
  rw [List.take_left' (length_padded hw hn)]
  exact List.takeWhile_eq_self_iff.mpr fun c hc => isDigit_of_mem_padded hc

theorem takePart?_padded {n : Nat} (hn : n < 100) (rest : List Char) :
    takePart? (padded 2 n ++ rest) = some (n, rest) := by
  rw [takePart?, skipBlanks_padded]
  exact takeNumber?_padded (by decide) hn rest

theorem takeYear?_padded {n : Nat} (hn : n < 10000) (rest : List Char) :
    takeYear? (padded 4 n ++ rest) = some ((n : Int), rest) := by
  have ht := takeNumber?_padded (by decide : 0 < 4) hn rest
  rw [takeYear?, skipBlanks_padded]
  obtain ⟨c, cs, hp, hc⟩ := exists_padded 4 n
  rw [hp, List.cons_append] at ht ⊢
  split
  next heq =>
    obtain ⟨rfl, -⟩ := List.cons.inj heq
    exact absurd hc (by decide)
  next heq =>
    obtain ⟨rfl, -⟩ := List.cons.inj heq
    exact absurd hc (by decide)
  next => rw [ht, Option.map_some]

/-- A year of four digits is read as it stands. -/
theorem takeYear?_plain {year : Int} (hl : 0 ≤ year) (hu : year ≤ 9999) (rest : List Char) :
    takeYear? (yearText year ++ '-' :: rest) = some (year, '-' :: rest) := by
  have htext : yearText year = padded 4 year.natAbs := by
    simp [yearText, hl, hu]
  have habs : ((year.natAbs : Nat) : Int) = year := by omega
  rw [htext, takeYear?_padded (by omega), habs]

/-- The other years are read behind their sign, up to the mark after them. -/
theorem takeYear?_signed {year : Int} (h : ¬(0 ≤ year ∧ year ≤ 9999)) (rest : List Char) :
    takeYear? (yearText year ++ '-' :: rest) = some (year, '-' :: rest) := by
  have hnumber : takeNumber? (padded 4 year.natAbs ++ '-' :: rest).length
      (padded 4 year.natAbs ++ '-' :: rest) = some (year.natAbs, '-' :: rest) := by
    apply takeNumber?_of_digits
    rw [List.take_length]
    exact Text.takeWhile_stop (fun c hc => isDigit_of_mem_padded hc) (by decide) rest
  have htext : yearText year =
      (if year < 0 then '-' else '+') :: padded 4 year.natAbs := by
    simp [yearText, h]
  have hblank : ∀ sign ∈ ['-', '+'], ∀ cs, Text.skipBlanks (sign :: cs) = sign :: cs :=
    fun sign hs cs => List.dropWhile_cons_of_neg <| by
      simpa using Text.forall_mem_of_all (P := fun c => Text.isBlank c = false) (by decide) sign hs
  rw [htext, List.cons_append]
  by_cases hneg : year < 0
  · have habs : -((year.natAbs : Nat) : Int) = year := by omega
    rw [if_pos hneg, takeYear?, hblank '-' (by decide)]
    simp only [hnumber, Option.map_some, habs]
  · have habs : ((year.natAbs : Nat) : Int) = year := by omega
    rw [if_neg hneg, takeYear?, hblank '+' (by decide)]
    simp only [hnumber, Option.map_some, habs]

/-- A year that is read up to the mark after it. -/
def TakesYear (year : Int) : Prop :=
  ∀ rest, takeYear? (yearText year ++ '-' :: rest) = some (year, '-' :: rest)

theorem takeDate?_text {d : Date} (hd : d.HasDay) (hy : TakesYear d.year) (rest : List Char) :
    takeDate? (yearText d.year ++ '-' :: padded 2 d.month ++ '-' :: padded 2 d.day ++ rest) =
      some (d, rest) := by
  have hm := hd.month_le
  have hday := hd.day_le
  have hbound := daysInMonth_bounds d.year d.month
  have hmark : ∀ cs, takeMark? '-' ('-' :: cs) = some cs := fun _ => rfl
  simp only [takeDate?, List.append_assoc, List.cons_append, Option.bind_eq_bind, hy _,
    Option.bind_some, hmark, takePart?_padded (show d.month < 100 by omega),
    takePart?_padded (show d.day < 100 by omega)]
  rfl

/-- A fraction is read with as many digits as were written, which may leave zeros out. -/
theorem takeFraction?_padded {width n : Nat} (hw : 0 < width) (h9 : width ≤ 9)
    (hn : n < Nat.pow 10 width) :
    takeFraction? ('.' :: (padded width n ++ ['Z'])) = some (n * Nat.pow 10 (9 - width), ['Z']) := by
  have hl := length_padded hw hn
  have hz : ∀ k, (['Z'].take k).takeWhile Char.isDigit = [] := by
    intro k
    cases k <;> rfl
  have ht : ((padded width n ++ ['Z']).take 9).takeWhile Char.isDigit = padded width n := by
    rw [List.take_append, List.take_of_length_le (by omega),
      List.takeWhile_append_of_pos fun c hc => isDigit_of_mem_padded hc, hz, List.append_nil]
  simp only [takeFraction?, ht, hl, takeNumber?_of_digits ht, Option.bind_eq_bind,
    Option.bind_some]
  rfl

theorem takeFraction?_text {n : Nat} (hn : n < 1000000000) :
    takeFraction? (fractionText n ++ ['Z']) = some (n, ['Z']) := by
  unfold fractionText
  split
  next hz =>
    subst hz
    rfl
  next =>
    split
    next hm =>
      have hlt : n / 1000000 < 1000 := by omega
      have hv : n / 1000000 * 1000000 = n := by omega
      rw [List.cons_append, takeFraction?_padded (by decide) (by decide) hlt]
      show some (n / 1000000 * 1000000, ['Z']) = _
      rw [hv]
    next =>
      split
      next hm =>
        have hlt : n / 1000 < 1000000 := by omega
        have hv : n / 1000 * 1000 = n := by omega
        rw [List.cons_append, takeFraction?_padded (by decide) (by decide) hlt]
        show some (n / 1000 * 1000, ['Z']) = _
        rw [hv]
      next =>
        rw [List.cons_append, takeFraction?_padded (by decide) (by decide) hn]
        show some (n * 1, ['Z']) = _
        rw [Nat.mul_one]

theorem read?_of_takesYear (h : t.isValid = true) (hy : TakesYear t.date.year) :
    read? t.text = some t := by
  obtain ⟨hdate, hclock⟩ := isValid_iff.mp h
  obtain ⟨hyear, hday⟩ := Date.isValid_iff.mp hdate
  have hhour := hclock.hour_le
  have hminute := hclock.minute_le
  have hsecond := hclock.second_le
  have htext : t.text.toList =
      yearText t.date.year ++ '-' :: padded 2 t.date.month ++ '-' :: padded 2 t.date.day ++
        ('T' :: (padded 2 t.hour ++ (':' :: (padded 2 t.minute ++
          (':' :: (padded 2 t.second ++ (fractionText t.nanosecond ++ ['Z']))))))) := by
    rw [text, String.toList_ofList]
    simp only [List.append_assoc, List.cons_append]
  have hafter : ∀ cs, afterDate? ('T' :: cs) = some cs := fun _ => rfl
  have hmark : ∀ cs, takeMark? ':' (':' :: cs) = some cs := fun _ => rfl
  have hoffset : takeOffset? (Text.skipBlanks ['Z']) = some (0, []) := by
    decide
  simp only [read?, htext, takeDate?_text hday hy, Option.bind_eq_bind, Option.bind_some,
    hafter, hmark, takePart?_padded (show t.hour < 100 by omega),
    takePart?_padded (show t.minute < 100 by omega),
    takePart?_padded (show t.second < 100 by omega), takeFraction?_text hclock.nanosecond_lt,
    hoffset, toUtc_zero hclock, h, hyear]
  rfl

theorem read?_text (h : t.isValid = true) (hl : 0 ≤ t.date.year) (hu : t.date.year ≤ 9999) :
    read? t.text = some t :=
  read?_of_takesYear h (takeYear?_plain hl hu)

/-- **Points in time.** Each of them is read back from its text. -/
theorem read?_text_of_isValid (h : t.isValid = true) : read? t.text = some t := by
  by_cases hfour : 0 ≤ t.date.year ∧ t.date.year ≤ 9999
  · exact read?_text h hfour.1 hfour.2
  · exact read?_of_takesYear h (takeYear?_signed hfour)

end Timestamp

end PolicyGuard
