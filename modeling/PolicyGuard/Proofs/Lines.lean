import PolicyGuard.Text.Scan

/-!
Lines of a text, and other rows whose parts a separator ends.

A break ends a line wherever it stands, so a text has one line more than it has breaks, and texts
on lines of their own have the lines of each of them.

* `splitOn_flatMap`: the parts of a row, each with the separator at its end;
* `length_splitOn`, `of_mem_splitOn`: how many parts a row has, and what is in them;
* `rows_append`, `exists_rows_append`: the parts of a row that more is added to;
* `exists_splitOn_append`: how the first line of a text starts;
* `lines_intercalate`: the lines of texts with a break between them;
* `lines_flatMap`: the lines of texts without breaks, each with its end.
-/

namespace PolicyGuard.Text

/-! ## Parts of a row -/

section

variable {α : Type} [BEq α] [LawfulBEq α] {sep : α}

theorem splitOn_flatMap {ls : List (List α)} (h : ∀ l ∈ ls, sep ∉ l) :
    (ls.flatMap (· ++ [sep])).splitOn sep = ls ++ [[]] := by
  induction ls with
  | nil => exact List.splitOn_nil sep
  | cons l rest ih =>
    rw [List.forall_mem_cons] at h
    rw [List.flatMap_cons, List.append_assoc, List.singleton_append,
      List.splitOn_append_cons_self_of_not_mem h.1, ih h.2]
    rfl

theorem splitOn_self_cons (l : List α) : (sep :: l).splitOn sep = [] :: l.splitOn sep := by
  have h := List.splitOn_append_cons_self (a := sep) [] l
  rwa [List.splitOn_nil] at h

theorem splitOn_cons_of_ne {a : α} (ha : a ≠ sep) (l : List α) :
    (a :: l).splitOn sep = (l.splitOn sep).modifyHead (a :: ·) := by
  have hb : ¬ (a == sep) = true := by
    simpa using ha
  rw [List.splitOn_cons_eq_if_modifyHead, if_neg hb]

theorem length_splitOn (l : List α) : (l.splitOn sep).length = l.count sep + 1 := by
  induction l with
  | nil => rw [List.splitOn_nil, List.count_nil, List.length_singleton]
  | cons a l ih =>
    by_cases ha : a = sep
    · subst ha
      rw [splitOn_self_cons, List.length_cons, ih, List.count_cons_self]
    · rw [splitOn_cons_of_ne ha, List.length_modifyHead, ih, List.count_cons_of_ne ha]

/-- Rows without separators are their own parts. -/
theorem flatMap_splitOn {ls : List (List α)} (h : ∀ l ∈ ls, sep ∉ l) :
    ls.flatMap (·.splitOn sep) = ls := by
  induction ls with
  | nil => rfl
  | cons l rest ih =>
    rw [List.forall_mem_cons] at h
    rw [List.flatMap_cons, List.splitOn_eq_singleton h.1, ih h.2, List.singleton_append]

/-- A part of a row is without separators, and made of what is in the row. -/
theorem of_mem_splitOn {l part : List α} (h : part ∈ l.splitOn sep) : sep ∉ part ∧ part ⊆ l := by
  induction l generalizing part with
  | nil =>
    rw [List.splitOn_nil, List.mem_singleton] at h
    simp [h]
  | cons a l ih =>
    by_cases ha : a = sep
    · subst ha
      rw [splitOn_self_cons] at h
      rcases List.mem_cons.mp h with rfl | h
      · simp
      · exact ⟨(ih h).1, List.Subset.trans (ih h).2 (List.subset_cons_self a l)⟩
    · obtain ⟨first, more, hl⟩ := List.exists_cons_of_ne_nil (List.splitOn_ne_nil sep l)
      rw [splitOn_cons_of_ne ha, hl, List.modifyHead_cons] at h
      rw [hl] at ih
      rcases List.mem_cons.mp h with rfl | h
      · obtain ⟨hsep, hsub⟩ := ih List.mem_cons_self
        exact ⟨by simp [hsep, Ne.symm ha], List.cons_subset_cons a hsub⟩
      · obtain ⟨hsep, hsub⟩ := ih (List.mem_cons_of_mem _ h)
        exact ⟨hsep, List.Subset.trans hsub (List.subset_cons_self a l)⟩

/-- What is added before the next separator goes to the last part. -/
theorem exists_splitOn_append_last (sep : α) (l : List α) :
    ∃ init last, l.splitOn sep = init ++ [last] ∧
      ∀ more, sep ∉ more → (l ++ more).splitOn sep = init ++ [last ++ more] := by
  induction l with
  | nil => exact ⟨[], [], List.splitOn_nil sep, fun more h => List.splitOn_eq_singleton h⟩
  | cons a l ih =>
    obtain ⟨init, last, hl, hmore⟩ := ih
    by_cases ha : a = sep
    · subst ha
      refine ⟨[] :: init, last, by rw [splitOn_self_cons, hl, List.cons_append],
        fun more h => ?_⟩
      rw [List.cons_append, splitOn_self_cons, hmore more h, List.cons_append]
    · cases init with
      | nil =>
        refine ⟨[], a :: last, by rw [splitOn_cons_of_ne ha, hl]; rfl, fun more h => ?_⟩
        rw [List.cons_append, splitOn_cons_of_ne ha, hmore more h]
        rfl
      | cons first init =>
        refine ⟨(a :: first) :: init, last, by rw [splitOn_cons_of_ne ha, hl]; rfl,
          fun more h => ?_⟩
        rw [List.cons_append, splitOn_cons_of_ne ha, hmore more h]
        rfl

/-- What ends in something else than a separator does not end in an empty part. -/
theorem getLast?_splitOn {a : α} (ha : a ≠ sep) (l : List α) :
    ((l ++ [a]).splitOn sep).getLast? ≠ some [] := by
  obtain ⟨init, last, -, h⟩ := exists_splitOn_append_last sep l
  rw [h [a] (by simp [Ne.symm ha])]
  simp

end

/-! ## Rows of parts -/

section

variable {α : Type} [DecidableEq α] {sep : α} {old : List α}

/-- The parts of a row. An empty one after the last separator does not count. -/
def rows (sep : α) (l : List α) : List (List α) :=
  let pieces := l.splitOn sep
  if pieces.getLast? = some [] then pieces.dropLast else pieces

/-- The last part of a row has its separator, too. -/
def Ended (sep : α) (l : List α) : Prop :=
  l = [] ∨ l.getLast? = some sep

instance (sep : α) (l : List α) : Decidable (Ended sep l) :=
  inferInstanceAs (Decidable (_ ∨ _))

theorem rows_concat (l : List α) : rows sep (l ++ [sep]) = l.splitOn sep := by
  rw [rows, List.splitOn_append_cons_self, List.splitOn_nil]
  simp

theorem rows_flatMap {ls : List (List α)} (h : ∀ l ∈ ls, sep ∉ l) :
    rows sep (ls.flatMap (· ++ [sep])) = ls := by
  rw [rows, splitOn_flatMap h]
  simp

/-- What is added to a row whose last part has its separator is a row of its own. -/
theorem rows_append (h : Ended sep old) (more : List α) :
    rows sep (old ++ more) = rows sep old ++ rows sep more := by
  rcases h with rfl | h
  · have hnil : rows sep ([] : List α) = [] := by
      rw [rows, List.splitOn_nil]
      rfl
    rw [hnil, List.nil_append, List.nil_append]
  · obtain ⟨init, rfl⟩ := List.getLast?_eq_some_iff.mp h
    have hne := List.splitOn_ne_nil sep more
    have hlast : (init.splitOn sep ++ more.splitOn sep).getLast? = (more.splitOn sep).getLast? := by
      obtain ⟨last, hl⟩ := Option.ne_none_iff_exists'.mp (mt List.getLast?_eq_none_iff.mp hne)
      rw [List.getLast?_append, hl, Option.some_or]
    rw [rows_concat, List.append_assoc, List.singleton_append, rows,
      List.splitOn_append_cons_self, hlast, List.dropLast_append_of_ne_nil hne, rows]
    split <;> rfl

/-- The first of the parts that are added goes on with a part that has no separator. -/
theorem exists_rows_append (h : ¬Ended sep old) : ∃ init last, last ≠ [] ∧
    rows sep old = init ++ [last] ∧ ∀ first ls, (∀ l ∈ first :: ls, sep ∉ l) →
      rows sep (old ++ (first :: ls).flatMap (· ++ [sep])) = init ++ (last ++ first) :: ls := by
  obtain ⟨init, last, hsplit, hmore⟩ := exists_splitOn_append_last sep old
  have hlast : last ≠ [] := by
    rintro rfl
    rcases List.eq_nil_or_concat old with rfl | ⟨c, b, rfl⟩
    · exact h (.inl rfl)
    · rw [List.concat_eq_append] at h hsplit
      have hb : b ≠ sep := by
        rintro rfl
        exact h (.inr List.getLast?_concat)
      exact getLast?_splitOn hb c (by rw [hsplit, List.getLast?_concat])
  refine ⟨init, last, hlast, ?_, fun first ls hls => ?_⟩
  · rw [rows, hsplit]
    simp [hlast]
  · rw [List.forall_mem_cons] at hls
    have hends : Ended sep (old ++ first ++ [sep]) := .inr (by simp)
    rw [List.flatMap_cons, ← List.append_assoc, ← List.append_assoc, rows_append hends,
      rows_concat, hmore first hls.1, rows_flatMap hls.2, List.append_assoc]
    rfl

end

/-! ## Lines -/

theorem lines_flatMap {ls : List (List Char)} (h : ∀ l ∈ ls, '\n' ∉ l) :
    lines (ls.flatMap (· ++ ['\n'])) = ls :=
  rows_flatMap h

/-- What stands before all breaks starts the first line. -/
theorem exists_splitOn_append {p : List Char} (hp : '\n' ∉ p) (rest : List Char) :
    ∃ first more, (p ++ rest).splitOn '\n' = (p ++ first) :: more := by
  induction p with
  | nil => exact List.exists_cons_of_ne_nil (List.splitOn_ne_nil '\n' rest)
  | cons c p ih =>
    rw [List.mem_cons, not_or] at hp
    obtain ⟨first, more, h⟩ := ih hp.2
    refine ⟨first, more, ?_⟩
    rw [List.cons_append, splitOn_cons_of_ne (Ne.symm hp.1), h, List.modifyHead_cons]
    rfl

theorem intercalate_append {ls more : List (List Char)} (hl : ls ≠ []) (hm : more ≠ [])
    (sep : List Char) :
    sep.intercalate (ls ++ more) = sep.intercalate ls ++ sep ++ sep.intercalate more := by
  induction ls with
  | nil => exact absurd rfl hl
  | cons l rest ih =>
    cases rest with
    | nil =>
      obtain ⟨next, more, rfl⟩ := List.exists_cons_of_ne_nil hm
      rw [List.singleton_append, List.intercalate_cons_cons, List.intercalate_singleton]
    | cons next rest =>
      rw [List.cons_append, List.cons_append, List.intercalate_cons_cons, ← List.cons_append,
        ih (List.cons_ne_nil _ _), List.intercalate_cons_cons]
      simp only [List.append_assoc]

theorem splitOn_intercalate {ls : List (List Char)} (h : ls ≠ []) :
    (['\n'].intercalate ls).splitOn '\n' = ls.flatMap (·.splitOn '\n') := by
  induction ls with
  | nil => exact absurd rfl h
  | cons l rest ih =>
    cases rest with
    | nil => simp
    | cons next rest =>
      rw [List.intercalate_cons_cons, List.append_assoc, List.singleton_append,
        List.splitOn_append_cons_self, ih (List.cons_ne_nil _ _), List.flatMap_cons (x := l)]

/-- Texts that do not end in an empty line, with a break between them. -/
theorem lines_intercalate {ls : List (List Char)}
    (h : ∀ l ∈ ls, (l.splitOn '\n').getLast? ≠ some []) :
    lines (['\n'].intercalate ls) = ls.flatMap (·.splitOn '\n') := by
  rcases List.eq_nil_or_concat ls with rfl | ⟨init, last, rfl⟩
  · rfl
  · rw [List.concat_eq_append] at h ⊢
    have hl := h last (List.mem_append_right _ (List.mem_singleton_self last))
    have hlast : ((init ++ [last]).flatMap (·.splitOn '\n')).getLast? ≠ some [] := by
      obtain ⟨line, hg⟩ := Option.ne_none_iff_exists'.mp
        (mt List.getLast?_eq_none_iff.mp (List.splitOn_ne_nil '\n' last))
      rwa [List.flatMap_append, List.flatMap_singleton, List.getLast?_append, hg,
        Option.some_or, ← hg]
    have hne : init ++ [last] ≠ [] := List.append_ne_nil_of_right_ne_nil _ (List.cons_ne_nil _ _)
    rw [lines, splitOn_intercalate hne]
    exact if_neg hlast

end PolicyGuard.Text
