import Mathlib.Data.List.TakeWhile
import PolicyGuard.Proofs.Annotation
import PolicyGuard.Proofs.Scan

/-!
The table of a report.

A row shows texts of the scan and of the policy as they are. So a bar in one of them is one cell
more, and a break is one line more, and an empty line, which ends the table.

* `tableLines_report`: the lines of a table;
* `length_cells_row`, `cells_row`: the cells of a row;
* `report_table`: a table against the texts that its rows show.
-/

namespace PolicyGuard.Gate

open Policy

/-! ## Reading a table -/

/-- The line between the names of the columns and the rows. -/
def separator : List Char :=
  "|---|-----------|------|------|--------------|".toList

/-- The lines of the table in a text: those between the separator and the next empty line. -/
def tableLines (text : String) : List (List Char) :=
  (((text.toList.splitOn '\n').dropWhile (· ≠ separator)).drop 1).takeWhile (· ≠ [])

/-- What stands between the bars of a line. -/
def cells (line : List Char) : List (List Char) :=
  ((line.splitOn '|').drop 1).dropLast

theorem length_cells (line : List Char) : (cells line).length = line.count '|' - 1 := by
  rw [cells, List.length_dropLast, List.length_drop, Text.length_splitOn, Nat.add_sub_cancel]

/-- A cell of a table has neither a break nor a bar. -/
theorem not_mem_cell {text : String} {line cell : List Char} (hl : line ∈ tableLines text)
    (hc : cell ∈ cells line) : '\n' ∉ cell ∧ '|' ∉ cell := by
  have hline : line ∈ text.toList.splitOn '\n' :=
    (List.dropWhile_suffix _).mem ((List.drop_suffix 1 _).mem ((List.takeWhile_prefix _).mem hl))
  have hcell : cell ∈ line.splitOn '|' :=
    (List.drop_suffix 1 _).mem ((List.dropLast_prefix _).mem hc)
  obtain ⟨hbar, hsub⟩ := Text.of_mem_splitOn hcell
  exact ⟨fun hn => (Text.of_mem_splitOn hline).1 (hsub hn), hbar⟩

/-! ## Rows -/

/-- The texts of a violation that its row shows. -/
def Violation.shown (v : Violation) : List String :=
  [v.componentName, v.componentType, v.rule.field, v.rule.value.asText, v.actualValue]

/-- How often a character stands in these texts. -/
def Violation.count (c : Char) (v : Violation) : Nat :=
  (v.shown.flatMap String.toList).count c

theorem Violation.count_eq_zero {c : Char} {v : Violation} :
    v.count c = 0 ↔ ∀ t ∈ v.shown, c ∉ t.toList := by
  rw [Violation.count, List.count_eq_zero]
  simp

/-- The cells that a row is made of. -/
def rowCells (number : Nat) (v : Violation) : List (List Char) :=
  [toString number, v.componentName, v.componentType, "\x60" ++ condition v.rule ++ "\x60",
    v.actualValue].map fun t => ' ' :: (t.toList ++ [' '])

/-- The characters of a row. -/
def rowChars (number : Nat) (v : Violation) : List Char :=
  String.toList <| row number v

theorem rowChars_eq (number : Nat) (v : Violation) :
    rowChars number v = '|' :: (rowCells number v).flatMap (· ++ ['|']) := by
  have hr : row number v = "| " ++ toString number ++ " | " ++ v.componentName ++ " | " ++
      v.componentType ++ " | \x60" ++ condition v.rule ++ "\x60 | " ++ v.actualValue ++ " |" := rfl
  rw [rowChars, hr, rowCells]
  simp [String.toList_append]

section

variable (number : Nat) (v : Violation)

/-- In its cells a row has the breaks and the bars of its texts and no others. -/
theorem count_flatten_rowCells {c : Char} (hc : c = '\n' ∨ c = '|') :
    (rowCells number v).flatten.count c = v.count c := by
  have hd : (toString number).toList.count c = 0 := by
    rw [List.count_eq_zero, Nat.toString_eq_repr, Nat.toList_repr]
    intro h
    have hdigit := Nat.isDigit_of_mem_toDigits (by decide) (by decide) h
    rcases hc with rfl | rfl <;> exact absurd hdigit (by decide)
  have ht : v.rule.operator.token.toList.count c = 0 := by
    rcases hc with rfl | rfl <;> cases v.rule.operator <;> decide
  have hr : "resource.".toList.count c = 0 ∧ " ".toList.count c = 0 ∧ "\x60".toList.count c = 0 ∧
      [' '].count c = 0 := by
    rcases hc with rfl | rfl <;> decide
  have hs (l : List Char) : (' ' :: l).count c = l.count c := by
    rcases hc with rfl | rfl <;> exact List.count_cons_of_ne (by decide)
  rw [Violation.count, Violation.shown, rowCells, condition]
  simp only [List.map_cons, List.map_nil, List.flatten_cons, List.flatten_nil, List.flatMap_cons,
    List.flatMap_nil, String.toList_append, List.count_append, hs, hd, ht, hr, List.count_nil]
  omega

theorem count_rowChars_newline : (rowChars number v).count '\n' = v.count '\n' := by
  rw [rowChars_eq, List.count_cons_of_ne (by decide), ← count_flatten_rowCells number v (.inl rfl),
    List.count_flatMap, List.count_flatten]
  simp [Function.comp_def]

theorem count_rowChars_bar : (rowChars number v).count '|' = 6 + v.count '|' := by
  rw [rowChars_eq, List.count_cons_self, ← count_flatten_rowCells number v (.inr rfl),
    List.count_flatMap, List.count_flatten]
  simp [Function.comp_def, rowCells]
  omega

/-- A row has a cell more for each bar in its texts. -/
theorem length_cells_row : (cells (rowChars number v)).length = 5 + v.count '|' := by
  rw [length_cells, count_rowChars_bar]
  omega

variable {v}

theorem cells_row (h : v.count '|' = 0) : cells (rowChars number v) = rowCells number v := by
  have hc : ∀ cell ∈ rowCells number v, '|' ∉ cell := by
    rw [← count_flatten_rowCells number v (.inr rfl), List.count_eq_zero] at h
    exact fun cell hcell hb => h (List.mem_flatten.mpr ⟨cell, hcell, hb⟩)
  rw [cells, rowChars_eq, Text.splitOn_self_cons, Text.splitOn_flatMap hc, List.drop_one,
    List.tail_cons, List.dropLast_concat]

/-- A row starts with its number in a cell of its own. -/
theorem number_isPrefix_row :
    ("| " ++ toString number ++ " |").toList <+: rowChars number v := by
  rw [rowChars_eq]
  refine ⟨(rowCells number v).tail.flatMap (· ++ ['|']), ?_⟩
  simp [rowCells, String.toList_append]

end

/-! ## The table of a report -/

/-- The rows of violations, by number. -/
def rows (vs : List Violation) : List (List Char) :=
  vs.zipIdx.map fun p => rowChars (p.2 + 1) p.1

/-- The lines that rows take. -/
def rowLines (vs : List Violation) : List (List Char) :=
  (rows vs).flatMap (·.splitOn '\n')

/-- What a table shows if it shows the texts as they are. -/
def cellRows (vs : List Violation) : List (List (List Char)) :=
  vs.zipIdx.map fun p => rowCells (p.2 + 1) p.1

/-- The lines of a report over its separator. -/
def opening (count : Nat) : List String :=
  ["## Cedar Policy Gate - FAILED", "", "**" ++ toString count ++ " violation(s) found**", "",
    "| # | Component | Type | Rule | Actual Value |"]

theorem newline_not_mem_opening (count : Nat) :
    ∀ line ∈ (opening count).map String.toList, '\n' ∉ line := by
  have hc : '\n' ∉ ("**" ++ toString count ++ " violation(s) found**").toList := by
    simp only [String.toList_append, List.mem_append, not_or]
    exact ⟨⟨by decide, newline_not_mem_digits count⟩, by decide⟩
  simp only [opening, List.map_cons, List.map_nil, List.forall_mem_cons]
  exact ⟨by decide, by decide, hc, by decide, by decide, by simp⟩

theorem separator_not_mem_opening (count : Nat) :
    separator ∉ (opening count).map String.toList := by
  have hs : separator.head? = some '|' := by
    decide
  have hc : separator ≠ ("**" ++ toString count ++ " violation(s) found**").toList := by
    intro h
    rw [h, String.toList_append, String.toList_append] at hs
    simp at hs
  simp only [opening, List.map_cons, List.map_nil, List.mem_cons, not_or]
  exact ⟨by decide, by decide, hc, by decide, by decide, List.not_mem_nil⟩

theorem splitOn_report (vs : List Violation) : ∃ more,
    (report vs).toList.splitOn '\n' =
      (opening vs.length).map String.toList ++ separator :: (rowLines vs ++ [] :: more) := by
  have hhead : (reportHead vs.length).map String.toList =
      (opening vs.length).map String.toList ++ [separator] := rfl
  have hrows : (vs.zipIdx.map fun p => row (p.2 + 1) p.1).map String.toList = rows vs := by
    rw [List.map_map]
    rfl
  have hlines : (reportLines vs).map String.toList ≠ [] := by
    simp [reportLines, reportHead]
  have hopen : ∀ line ∈ (opening vs.length).map String.toList ++ [separator], '\n' ∉ line := by
    intro line hline
    rcases List.mem_append.mp hline with h | h
    · exact newline_not_mem_opening vs.length line h
    · obtain rfl := List.mem_singleton.mp h
      decide
  refine ⟨(("### Policy rules that triggered" :: "" ::
    (statements vs).flatMap fun s => [block s, ""]).map String.toList).flatMap
      (·.splitOn '\n'), ?_⟩
  rw [report, String.toList_intercalate]
  show (['\n'].intercalate _).splitOn '\n' = _
  rw [Text.splitOn_intercalate hlines, reportLines, List.map_append, List.map_append,
    List.map_append, hhead, hrows, List.flatMap_append, List.flatMap_append, List.flatMap_append,
    Text.flatMap_splitOn hopen]
  simp only [List.append_assoc, List.singleton_append, rowLines]
  rfl

theorem tableLines_report (vs : List Violation) :
    tableLines (report vs) = (rowLines vs).takeWhile (· ≠ []) := by
  obtain ⟨more, h⟩ := splitOn_report vs
  rw [tableLines, h, Text.dropWhile_stop (Text.passes_of_not_mem (separator_not_mem_opening _))
    (by simp), List.drop_one, List.tail_cons]
  exact Text.takeWhile_append_stop (by simp) _

/-! ## The shape of a table -/

/-- A line for each violation, which starts with its number and has five cells. -/
structure KeepsShape (vs : List Violation) : Prop where
  length : (tableLines (report vs)).length = vs.length
  line : ∀ i line, (tableLines (report vs))[i]? = some line →
    ("| " ++ toString (i + 1) ++ " |").toList <+: line ∧ (cells line).length = 5

section

variable {vs : List Violation}

theorem getElem?_rows (vs : List Violation) (i : Nat) :
    (rows vs)[i]? = vs[i]?.map (rowChars (i + 1)) := by
  rw [rows, List.getElem?_map, List.getElem?_zipIdx, Option.map_map, Nat.zero_add]
  rfl

/-- Texts without breaks leave every row on a line of its own. -/
theorem tableLines_of_unbroken (h : ∀ v ∈ vs, v.count '\n' = 0) :
    tableLines (report vs) = rows vs := by
  have hn : ∀ line ∈ rows vs, '\n' ∉ line := by
    intro line hline
    obtain ⟨i, hi⟩ := List.mem_iff_getElem?.mp hline
    rw [getElem?_rows, Option.map_eq_some_iff] at hi
    obtain ⟨v, hv, rfl⟩ := hi
    rw [← List.count_eq_zero, count_rowChars_newline]
    exact h v (List.mem_of_getElem? hv)
  have hne : ∀ line ∈ rows vs, decide (line ≠ []) = true := by
    intro line hline
    obtain ⟨p, -, rfl⟩ := List.mem_map.mp hline
    simp [rowChars_eq]
  rw [tableLines_report, rowLines, Text.flatMap_splitOn hn, List.takeWhile_eq_self_iff.mpr hne]

theorem keepsShape_iff (h : ∀ v ∈ vs, v.count '\n' = 0) :
    KeepsShape vs ↔ ∀ v ∈ vs, v.count '|' = 0 := by
  have ht := tableLines_of_unbroken h
  constructor
  · intro hs v hv
    obtain ⟨i, hi⟩ := List.mem_iff_getElem?.mp hv
    have hcells := (hs.line i (rowChars (i + 1) v) (by rw [ht, getElem?_rows, hi]; rfl)).2
    rw [length_cells_row] at hcells
    omega
  · intro hb
    refine ⟨by rw [ht, rows, List.length_map, List.length_zipIdx], fun i line hline => ?_⟩
    rw [ht, getElem?_rows, Option.map_eq_some_iff] at hline
    obtain ⟨v, hv, rfl⟩ := hline
    refine ⟨number_isPrefix_row (i + 1), ?_⟩
    rw [length_cells_row, hb v (List.mem_of_getElem? hv)]

/-- A table can be read again exactly if no text that it shows has a break or a bar. -/
theorem map_cells_iff : (tableLines (report vs)).map cells = cellRows vs ↔
    ∀ v ∈ vs, v.count '\n' = 0 ∧ v.count '|' = 0 := by
  constructor
  · intro h v hv
    obtain ⟨i, hi⟩ := List.mem_iff_getElem?.mp hv
    have hrow : rowCells (i + 1) v ∈ (tableLines (report vs)).map cells := by
      rw [h]
      exact List.mem_map.mpr ⟨(v, i), List.mem_zipIdx_iff_getElem?.mpr hi, rfl⟩
    obtain ⟨line, hline, hcells⟩ := List.mem_map.mp hrow
    have hclean : ∀ cell ∈ rowCells (i + 1) v, '\n' ∉ cell ∧ '|' ∉ cell := by
      rw [← hcells]
      exact fun cell hcell => not_mem_cell hline hcell
    rw [← count_flatten_rowCells (i + 1) v (.inl rfl),
      ← count_flatten_rowCells (i + 1) v (.inr rfl), List.count_eq_zero, List.count_eq_zero]
    refine ⟨fun hn => ?_, fun hb => ?_⟩
    · obtain ⟨cell, hcell, hn⟩ := List.mem_flatten.mp hn
      exact (hclean cell hcell).1 hn
    · obtain ⟨cell, hcell, hb⟩ := List.mem_flatten.mp hb
      exact (hclean cell hcell).2 hb
  · intro h
    rw [tableLines_of_unbroken fun v hv => (h v hv).1, rows, cellRows, List.map_map]
    refine List.map_congr_left fun p hp => ?_
    have hv : p.1 ∈ vs := List.mem_of_getElem? (List.mem_zipIdx_iff_getElem?.mp hp)
    rw [Function.comp_apply, cells_row (p.2 + 1) (h p.1 hv).2]

end

/-- **Tables.** The lines of a table are those of its rows up to the first empty one. If no text
that it shows has a break, each row is one line, and the table keeps its shape if and only if no
text has a bar; the cells of a row are then five and one for each bar. And what the table shows is
the texts as they are if and only if none of them has a break or a bar. -/
theorem report_table (vs : List Violation) :
    tableLines (report vs) = (rowLines vs).takeWhile (· ≠ []) ∧
      ((∀ v ∈ vs, ∀ t ∈ v.shown, '\n' ∉ t.toList) →
        tableLines (report vs) = rows vs ∧
          (∀ i v, vs[i]? = some v → (cells (rowChars (i + 1) v)).length = 5 + v.count '|') ∧
          (KeepsShape vs ↔ ∀ v ∈ vs, ∀ t ∈ v.shown, '|' ∉ t.toList)) ∧
      ((tableLines (report vs)).map cells = cellRows vs ↔
        ∀ v ∈ vs, ∀ t ∈ v.shown, '\n' ∉ t.toList ∧ '|' ∉ t.toList) := by
  have hboth (v : Violation) : (∀ t ∈ v.shown, '\n' ∉ t.toList ∧ '|' ∉ t.toList) ↔
      v.count '\n' = 0 ∧ v.count '|' = 0 := by
    simp only [Violation.count_eq_zero, forall_and]
  simp only [hboth, ← Violation.count_eq_zero]
  exact ⟨tableLines_report vs,
    fun h => ⟨tableLines_of_unbroken h, fun i v _ => length_cells_row (i + 1) v, keepsShape_iff h⟩,
    map_cells_iff⟩

/-! A component with a bar in its name, beside those whose annotations are looked at. -/

def barredComponent : Component :=
  [("name", .string "model | 2"), ("severity", .string "high")]

def barredViolation : Violation :=
  ⟨forbidHigh, "model | 2", "unknown", "high", "high", none, none⟩

theorem table_plainViolation :
    (∀ v ∈ [plainViolation, barredViolation], ∀ t ∈ v.shown, '\n' ∉ t.toList) ∧
      (cells (rowChars 1 plainViolation)).length = 5 ∧
      (cells (rowChars 2 barredViolation)).length = 6 ∧
      KeepsShape [plainViolation] ∧ ¬KeepsShape [plainViolation, barredViolation] ∧
      (tableLines (report [plainViolation])).map cells = cellRows [plainViolation] ∧
      (tableLines (report [brokenViolation])).length = 2 := by
  have hflat : ∀ v ∈ [plainViolation, barredViolation], ∀ t ∈ v.shown, '\n' ∉ t.toList := by
    decide
  have hplain : ∀ v ∈ [plainViolation], ∀ t ∈ v.shown, '\n' ∉ t.toList ∧ '|' ∉ t.toList := by
    decide
  have hbarred : ¬∀ v ∈ [plainViolation, barredViolation], ∀ t ∈ v.shown, '|' ∉ t.toList := by
    decide
  obtain ⟨-, hboth, -⟩ := report_table [plainViolation, barredViolation]
  obtain ⟨-, hone, hread⟩ := report_table [plainViolation]
  obtain ⟨hlines, -, -⟩ := report_table [brokenViolation]
  obtain ⟨-, hcells, hnot⟩ := hboth hflat
  obtain ⟨-, -, hkeeps⟩ := hone fun v hv t ht => (hplain v hv t ht).1
  refine ⟨hflat, hcells 0 plainViolation rfl, hcells 1 barredViolation rfl,
    hkeeps.mpr fun v hv t ht => (hplain v hv t ht).2, mt hnot.mp hbarred, hread.mpr hplain, ?_⟩
  rw [hlines]
  decide +kernel

/-- Not every table keeps its shape: a bar in the name of a component is a cell more. -/
theorem table_barredComponent :
    ¬ ∀ (rules : List Rule) (cs : List Component) (entities : Option Entities),
      KeepsShape (evaluate rules cs entities) := by
  intro h
  have hv : evaluate [forbidHigh] [barredComponent] none = [barredViolation] := by
    decide +kernel
  have hshape := h [forbidHigh] [barredComponent] none
  rw [hv, keepsShape_iff (by decide)] at hshape
  exact absurd (hshape barredViolation List.mem_cons_self) (by decide)

end PolicyGuard.Gate
