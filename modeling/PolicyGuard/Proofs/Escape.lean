import PolicyGuard.Pattern.Escape
import PolicyGuard.Pattern.Read

/-!
Patterns that stand for a text.

With a backslash before everything that means something else in a pattern, a text is read as
the characters that it is made of. After `^` this is the pattern of the texts that begin as it.

* `occursIn_startingWith`: the pattern of a text is found where a text begins as that one;
* `readItem?_escaped`: one character, escaped or not, is one piece;
* `read?_escape`, `exists_read?_escape`: the pattern that is read, unless it is too large;
* `occursIn_escape`: where it is found.
-/

namespace PolicyGuard.Pattern

/-! ## Texts that begin as another -/

/-- The pattern of the texts that begin as this one. -/
def startingWith (text : String) : Pattern :=
  sequence (anchor .textStart :: text.toList.map fun c => one (.single c))

theorem has_single (c d : Char) : (CharSet.single c).has d = decide (c = d) := by
  rw [CharSet.single, CharSet.has, ← Bool.decide_and, decide_eq_decide]
  exact ⟨fun h => Char.le_antisymm h.1 h.2, fun h => h ▸ ⟨Char.le_refl c, Char.le_refl c⟩⟩

theorem endsInTurn_nil (parts : List Pattern) : endsInTurn parts [] = [] := by
  induction parts with
  | nil => rfl
  | cons q parts ih => exact ih

/-- One character after the other is matched exactly by the text that they make up. -/
theorem endsInTurn_chars (cs rest : List Char) (before : Option Char) :
    endsInTurn (cs.map fun c => one (.single c)) [⟨before, rest⟩] = [] ↔ ¬ cs <+: rest := by
  induction cs generalizing rest before with
  | nil => simp [endsInTurn]
  | cons c cs ih =>
    cases rest with
    | nil => simp [endsInTurn, ends, Place.distinct, endsInTurn_nil]
    | cons d rest =>
      by_cases hc : c = d
      · subst hc
        simpa [endsInTurn, ends, Place.distinct, has_single] using ih rest (some c)
      · simp [endsInTurn, ends, Place.distinct, has_single, endsInTurn_nil, hc]

theorem before_of_mem_onwards {c : Char} {cs : List Char} {p : Place}
    (h : p ∈ Place.onwards (some c) cs) : p.before.isSome := by
  induction cs generalizing c with
  | nil =>
    obtain rfl := List.mem_singleton.mp h
    rfl
  | cons d cs ih =>
    rcases List.mem_cons.mp h with rfl | h
    · rfl
    · exact ih h

theorem ends_startingWith (text : String) (p : Place) :
    (startingWith text).ends p = [] ↔ p.before.isSome ∨ ¬ text.toList <+: p.rest := by
  obtain ⟨before, rest⟩ := p
  cases before with
  | none =>
    simpa [startingWith, ends, endsInTurn, Anchor.holds, Place.distinct] using
      endsInTurn_chars text.toList rest none
  | some c =>
    simp [startingWith, ends, endsInTurn, Anchor.holds, Place.distinct, endsInTurn_nil]

/-- Only the place at the start has no character before it, so a match is there. -/
theorem occursIn_startingWith (text url : String) :
    (startingWith text).occursIn url = true ↔ text.toList <+: url.toList := by
  simp only [occursIn, List.any_eq_true, Bool.not_eq_true', List.isEmpty_eq_false_iff, ne_eq,
    ends_startingWith, not_or, Decidable.not_not]
  constructor
  · rintro ⟨p, hp, hb, hr⟩
    cases hu : url.toList with
    | nil =>
      rw [hu] at hp
      obtain rfl := List.mem_singleton.mp hp
      exact hr
    | cons c cs =>
      rw [hu] at hp
      rcases List.mem_cons.mp hp with rfl | hp
      · exact hr
      · exact absurd (before_of_mem_onwards hp) hb
  · intro h
    refine ⟨⟨none, url.toList⟩, ?_, by simp, h⟩
    cases url.toList with
    | nil => exact List.mem_singleton_self _
    | cons c cs => exact List.mem_cons_self ..

/-! ## What is read -/

/-- With a backslash, each of these characters stands for itself. -/
theorem readEscape?_of_mem {c : Char} (h : c ∈ metas) (rest : List Char) :
    readEscape? .initial (c :: rest) = some (.char c, rest) := by
  simp only [metas, List.mem_cons, List.not_mem_nil, or_false] at h
  rcases h with rfl | rfl | rfl | rfl | rfl | rfl | rfl | rfl | rfl | rfl | rfl | rfl | rfl | rfl |
    rfl | rfl | rfl | rfl <;> rfl

theorem readItem?_of_not_mem {c : Char} (h : c ∉ metas) (rest : List Char) :
    readItem? .initial (c :: rest) = some (.piece (one (.single c)), rest) := by
  simp only [readItem?]
  split
  case h_13 => rfl
  all_goals exact absurd (by decide) h

/-- One character is one piece, escaped or not. -/
theorem readItem?_escaped (c : Char) (rest : List Char) :
    readItem? .initial (escapeChar c ++ rest) = some (.piece (one (.single c)), rest) := by
  unfold escapeChar
  split
  next hc =>
    simp only [List.cons_append, List.nil_append, readItem?, readEscape?_of_mem hc rest]
    rfl
  next hc => exact readItem?_of_not_mem hc rest

/-- A piece is added to the group that is open. -/
theorem readFrom?_piece {n : Nat} {names : List (List Char)} {g : Group} {outer : List Group}
    {cs rest : List Char} {p : Pattern} (hg : g.flags.verbose = false)
    (h : readItem? g.flags cs = some (.piece p, rest)) :
    readFrom? (n + 1) names g outer cs = readFrom? n names (g.add (some p)) outer rest := by
  cases cs with
  | nil => cases h
  | cons c cs => simp [readFrom?, Flags.skip, hg, h]

/-- The group that is open at the start, with the pieces so far. -/
def openGroup (pieces : List Pattern) : Group :=
  ⟨.initial, [], (pieces.map some).reverse⟩

theorem readFrom?_escaped {n : Nat} {cs : List Char} (h : cs.length < n) (pieces : List Pattern) :
    readFrom? n [] (openGroup pieces) [] (cs.flatMap escapeChar) =
      some (.choice [.sequence (pieces ++ cs.map fun c => one (.single c))]) := by
  induction cs generalizing n pieces with
  | nil =>
    obtain ⟨n, rfl⟩ := Nat.exists_eq_add_one_of_ne_zero (Nat.ne_of_gt h)
    have hp : (pieces.map some).reverse.reverse.filterMap id = pieces := by
      rw [List.reverse_reverse, List.filterMap_map]
      exact List.filterMap_some
    have hr : readFrom? (n + 1) [] (openGroup pieces) [] [] =
        some (.choice [.sequence ((pieces.map some).reverse.reverse.filterMap id)]) := rfl
    rw [List.map_nil, List.append_nil, List.flatMap_nil, hr, hp]
  | cons c cs ih =>
    obtain ⟨n, rfl⟩ := Nat.exists_eq_add_one_of_ne_zero (Nat.ne_of_gt (Nat.zero_lt_of_lt h))
    have hi := readItem?_escaped c (cs.flatMap escapeChar)
    have hg : (openGroup pieces).add (some (one (.single c))) =
        openGroup (pieces ++ [one (.single c)]) := by
      simp [openGroup, Group.add]
    rw [List.flatMap_cons, readFrom?_piece rfl hi, hg, ih (Nat.lt_of_succ_lt_succ h),
      List.append_assoc]
    rfl

theorem length_le_escaped (cs : List Char) : cs.length ≤ (cs.flatMap escapeChar).length := by
  induction cs with
  | nil => exact Nat.le_refl 0
  | cons c cs ih =>
    have hc : 1 ≤ (escapeChar c).length := by
      unfold escapeChar
      split <;> simp
    rw [List.flatMap_cons, List.length_append, List.length_cons]
    omega

/-- After `^`, an escaped text is read as the texts that begin as it, unless it is too large. -/
theorem read?_escape (text : String) :
    read? ("^" ++ escape text) =
      if (choice [startingWith text]).weight ≤ weightLimit then some (choice [startingWith text])
      else none := by
  have he : (escape text).toList = text.toList.flatMap escapeChar := String.toList_ofList
  have hcs : ("^" ++ escape text).toList = '^' :: text.toList.flatMap escapeChar := by
    rw [String.toList_append, he]
    rfl
  have hi : readItem? .initial ('^' :: text.toList.flatMap escapeChar) =
      some (.piece (anchor .textStart), text.toList.flatMap escapeChar) := rfl
  have hr : readFrom? (('^' :: text.toList.flatMap escapeChar).length + 1) [] (.new .initial) []
      ('^' :: text.toList.flatMap escapeChar) = some (choice [startingWith text]) := by
    have hl : text.toList.length < ('^' :: text.toList.flatMap escapeChar).length :=
      Nat.lt_succ_of_le (length_le_escaped text.toList)
    rw [readFrom?_piece rfl hi]
    exact readFrom?_escaped hl [anchor .textStart]
  simp only [read?, hcs, hr, Option.bind_eq_bind, Option.bind_some, Option.pure_def]

theorem setWeight_le (s : CharSet) : setWeight s ≤ 400 := by
  unfold setWeight
  split <;> decide

theorem weightOfAll_chars_le (cs : List Char) :
    weightOfAll (cs.map fun c => one (.single c)) ≤ 400 * cs.length := by
  induction cs with
  | nil => exact Nat.le_refl 0
  | cons c cs ih =>
    have hc := setWeight_le (.single c)
    rw [List.map_cons, weightOfAll, weight, List.length_cons]
    omega

/-- Texts of a usual length are not too large. -/
theorem exists_read?_escape {text : String} (h : text.toList.length < 750) :
    ∃ p, read? ("^" ++ escape text) = some p := by
  have hw : (choice [startingWith text]).weight =
      1 + (1 + weightOfAll (text.toList.map fun c => one (.single c)) + 0) := rfl
  have hl := weightOfAll_chars_le text.toList
  have hle : (choice [startingWith text]).weight ≤ weightLimit := by
    rw [hw, weightLimit]
    omega
  exact ⟨_, (read?_escape text).trans (if_pos hle)⟩

/-! ## Where it is found -/

theorem occursIn_choice (p : Pattern) (text : String) :
    (choice [p]).occursIn text = p.occursIn text := by
  have he (place : Place) : (choice [p]).ends place = p.ends place :=
    List.append_nil (p.ends place)
  simp only [occursIn, he]

/-- An escaped text after `^` is found where a text begins as it, and nowhere else. -/
theorem occursIn_escape {text : String} {p : Pattern} (h : read? ("^" ++ escape text) = some p)
    (url : String) : p.occursIn url = true ↔ text.toList <+: url.toList := by
  rw [read?_escape, Option.ite_none_right_eq_some] at h
  obtain rfl := Option.some.inj h.2
  rw [occursIn_choice, occursIn_startingWith]

end PolicyGuard.Pattern
