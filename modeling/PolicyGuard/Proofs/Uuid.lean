import PolicyGuard.Event.Uuid
import PolicyGuard.Proofs.Scan

/-!
Identifiers, written and read.

* `ungroup?_group`, `length_group`: digits in groups with hyphens between them;
* `read?_text`: an identifier is read back from its text.
-/

namespace PolicyGuard.Uuid

/-! ## Groups -/

/-- The number of characters in groups of these sizes. -/
def total (sizes : List Nat) : Nat :=
  sizes.foldr (· + ·) 0

theorem total_cons (n : Nat) (sizes : List Nat) : total (n :: sizes) = n + total sizes :=
  rfl

theorem group_cons (n m : Nat) (sizes : List Nat) (cs : List Char) :
    group (n :: m :: sizes) cs = cs.take n ++ '-' :: group (m :: sizes) (cs.drop n) :=
  rfl

theorem length_group {n : Nat} {sizes : List Nat} {cs : List Char}
    (h : cs.length = total (n :: sizes)) :
    (group (n :: sizes) cs).length = cs.length + sizes.length := by
  induction sizes generalizing n cs with
  | nil =>
    have h : cs.length = n := h
    rw [group, ← h, List.take_length]
    rfl
  | cons m sizes ih =>
    rw [total_cons] at h
    have hdrop : (cs.drop n).length = total (m :: sizes) := by
      rw [List.length_drop]
      omega
    have hg := ih hdrop
    rw [group_cons, List.length_append, List.length_cons, hg, List.length_take, List.length_drop,
      List.length_cons]
    omega

theorem ungroup?_group {n : Nat} {sizes : List Nat} {cs : List Char}
    (h : cs.length = total (n :: sizes)) :
    ungroup? (n :: sizes) (group (n :: sizes) cs) = some cs := by
  induction sizes generalizing n cs with
  | nil =>
    have h : cs.length = n := h
    rw [group, ungroup?, ← h, List.take_length, if_pos rfl]
  | cons m sizes ih =>
    rw [total_cons] at h
    have hdrop : (cs.drop n).length = total (m :: sizes) := by
      rw [List.length_drop]
      omega
    have hlen : (cs.take n).length = n := by
      rw [List.length_take]
      omega
    have hfront : (cs.take n ++ '-' :: group (m :: sizes) (cs.drop n)).take n = cs.take n :=
      List.take_left' hlen
    have hback : (cs.take n ++ '-' :: group (m :: sizes) (cs.drop n)).drop n =
        '-' :: group (m :: sizes) (cs.drop n) := List.drop_left' hlen
    rw [group_cons, ungroup?, hback]
    · show (ungroup? (m :: sizes) _).map (List.take n _ ++ ·) = _
      rw [ih hdrop, hfront, Option.map_some, List.take_append_drop]
    · exact List.cons_ne_nil _ _

/-! ## Digits -/

theorem digit?_hexDigit (d : Fin 16) : digit? (Text.hexDigit d.val) = some d := by
  rw [digit?, Text.hexValue?_hexDigit d.isLt]
  exact dif_pos d.isLt

/-- The digits of an identifier as characters. -/
def chars (u : Uuid) : List Char :=
  u.digits.map fun d => Text.hexDigit d.val

theorem length_chars (u : Uuid) : u.chars.length = 32 := by
  rw [chars, List.length_map, u.length_digits]

theorem ofDigits?_chars (u : Uuid) : ofDigits? u.chars = some u := by
  have hm : u.chars.mapM digit? = some u.digits := by
    have h : u.digits.mapM (digit? ∘ fun d => Text.hexDigit d.val) = some (u.digits.map id) :=
      Text.mapM_eq_map fun d _ => digit?_hexDigit d
    rw [chars, List.mapM_map, h, List.map_id]
  simp only [ofDigits?, hm, Option.bind_eq_bind, Option.bind_some]
  exact dif_pos u.length_digits

/-! ## The text -/

theorem unwrap_of_digit {c : Char} (h : c ∉ ['\x7b', 'u']) (rest : List Char) :
    unwrap (c :: rest) = c :: rest := by
  simp only [List.mem_cons, List.not_mem_nil, or_false, not_or] at h
  have ha : Text.after? "urn:uuid:".toList (c :: rest) = none := if_neg (Ne.symm h.2)
  unfold unwrap
  split
  next hc => exact absurd (List.cons.inj hc).1 h.1
  next => rw [ha, Option.getD_none]

/-- **Identifiers.** However an identifier was spelled, its text is read as the same one. -/
theorem read?_text (u : Uuid) : read? u.text = some u := by
  have hsum : u.chars.length = total groupSizes := u.length_chars
  have hlen : (group groupSizes u.chars).length = 36 := by
    rw [groupSizes, length_group hsum, length_chars]
    rfl
  have hungroup : ungroup? groupSizes (group groupSizes u.chars) = some u.chars :=
    ungroup?_group hsum
  have hunwrap : unwrap (group groupSizes u.chars) = group groupSizes u.chars := by
    have hl := u.length_digits
    cases hd : u.digits with
    | nil => simp [hd] at hl
    | cons d ds =>
      have hhex : ∀ d : Fin 16, Text.hexDigit d.val ∉ ['\x7b', 'u'] := by
        decide
      rw [chars, hd, List.map_cons]
      exact unwrap_of_digit (hhex d) _
  have ht : u.text.toList = group groupSizes u.chars := String.toList_ofList
  simp only [read?, ht, hlen, hunwrap, hyphenated?, hungroup, Option.bind_eq_bind,
    Option.bind_some, ofDigits?_chars]
  rfl

end PolicyGuard.Uuid
