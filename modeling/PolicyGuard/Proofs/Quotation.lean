import Mathlib.Data.List.Induction
import Mathlib.Data.List.Nodup
import PolicyGuard.Gate.Report
import PolicyGuard.Proofs.Lines

/-!
The statements that a report quotes.

Rules of one statement, and components under one rule, are violations with the same source. The
report quotes each source once, in the order in which they first occur.

* `statements_eq`, `firstOccurrences_statements`: which statements are quoted, and their order;
* `report_eq`: they stand after the heading, each in a block of its own;
* `blocksIn_quotation`: the blocks are read as the statements that were put in them;
* `report_quotes`: all of it.
-/

namespace PolicyGuard.Gate

open Policy

/-! ## Each statement once -/

/-- The sources of violations, one for each. -/
def sources (vs : List Violation) : List String :=
  vs.map fun v => v.rule.source

/-- The members of a row without repetitions, in the order in which they first occur. -/
structure FirstOccurrences (row firsts : List String) : Prop where
  nodup : firsts.Nodup
  mem_iff : ∀ s, s ∈ firsts ↔ s ∈ row
  ordered : firsts.Pairwise fun s t => row.idxOf s < row.idxOf t

theorem sources_concat (vs : List Violation) (v : Violation) :
    sources (vs ++ [v]) = sources vs ++ [v.rule.source] := by
  rw [sources, List.map_append]
  rfl

theorem statements_concat (vs : List Violation) (v : Violation) :
    statements (vs ++ [v]) = if v.rule.source ∈ statements vs then statements vs
      else statements vs ++ [v.rule.source] := by
  rw [statements, List.foldl_append]
  rfl

theorem eraseDups_concat (ss : List String) (s : String) :
    (ss ++ [s]).eraseDups = if s ∈ ss then ss.eraseDups else ss.eraseDups ++ [s] := by
  rw [List.eraseDups_append]
  by_cases h : s ∈ ss <;> simp [List.removeAll, h, List.eraseDups_cons]

/-- The set of what was seen is the list of what is quoted, with each step. -/
theorem statements_eq (vs : List Violation) : statements vs = (sources vs).eraseDups := by
  induction vs using List.reverseRecOn with
  | nil => rfl
  | append_singleton vs v ih =>
    rw [statements_concat, sources_concat, eraseDups_concat, ih]
    simp only [List.mem_eraseDups]

namespace FirstOccurrences

variable {row firsts : List String} {s : String}

/-- What is added to a row does not change where its members first occur. -/
theorem ordered_append (h : FirstOccurrences row firsts) (more : List String) :
    firsts.Pairwise fun s t => (row ++ more).idxOf s < (row ++ more).idxOf t := by
  refine h.ordered.imp_of_mem fun hs ht hlt => ?_
  rwa [List.idxOf_append_of_mem ((h.mem_iff _).mp hs),
    List.idxOf_append_of_mem ((h.mem_iff _).mp ht)]

theorem repeated (h : FirstOccurrences row firsts) (hs : s ∈ row) :
    FirstOccurrences (row ++ [s]) firsts where
  nodup := h.nodup
  mem_iff t := by
    rw [h.mem_iff, List.mem_append, List.mem_singleton]
    exact ⟨.inl, fun ht => ht.elim id fun ht => ht ▸ hs⟩
  ordered := h.ordered_append [s]

theorem new (h : FirstOccurrences row firsts) (hs : s ∉ row) :
    FirstOccurrences (row ++ [s]) (firsts ++ [s]) where
  nodup := by
    rw [← List.concat_eq_append, List.nodup_concat, h.mem_iff]
    exact ⟨hs, h.nodup⟩
  mem_iff t := by
    rw [List.mem_append, List.mem_append, h.mem_iff]
  ordered := by
    rw [List.pairwise_append]
    refine ⟨h.ordered_append [s], List.pairwise_singleton _ _, fun t ht u hu => ?_⟩
    obtain rfl := List.mem_singleton.mp hu
    have hrow := (h.mem_iff t).mp ht
    have hlt := List.idxOf_lt_length_of_mem hrow
    rw [List.idxOf_append_of_mem hrow, List.idxOf_append_of_notMem hs]
    omega

end FirstOccurrences

theorem firstOccurrences_statements (vs : List Violation) :
    FirstOccurrences (sources vs) (statements vs) := by
  induction vs using List.reverseRecOn with
  | nil => exact ⟨List.nodup_nil, fun s => Iff.rfl, List.Pairwise.nil⟩
  | append_singleton vs v ih =>
    rw [statements_concat, sources_concat]
    split
    next h => exact ih.repeated ((ih.mem_iff _).mp h)
    next h => exact ih.new (mt (ih.mem_iff _).mpr h)

/-! ## Blocks after the heading -/

/-- A report up to its heading: its table and what is over it. -/
def reportFront (vs : List Violation) : String :=
  "\n".intercalate (reportHead vs.length ++ (vs.zipIdx.map fun p => row (p.2 + 1) p.1) ++
    ["", "### Policy rules that triggered"]) ++ "\n"

/-- Statements, each after an empty line and in a block of its own. -/
def quotation (ss : List String) : String :=
  String.join (ss.map fun s => "\n" ++ block s ++ "\n")

theorem toList_quotation_cons (s : String) (ss : List String) :
    (quotation (s :: ss)).toList =
      '\n' :: ((block s).toList ++ '\n' :: (quotation ss).toList) := by
  simp [quotation, String.toList_append]

/-- An empty line, and then the blocks with an empty line after each. -/
theorem intercalate_blocks (ss : List String) :
    ['\n'].intercalate ([] :: ss.flatMap fun s => [(block s).toList, []]) =
      (quotation ss).toList := by
  induction ss with
  | nil => rfl
  | cons s ss ih =>
    rw [List.flatMap_cons, List.cons_append, List.singleton_append, List.intercalate_cons_cons,
      List.intercalate_cons_cons, ih, toList_quotation_cons]
    simp

theorem report_eq (vs : List Violation) :
    report vs = reportFront vs ++ quotation (statements vs) := by
  have hlines : reportLines vs = (reportHead vs.length ++
      (vs.zipIdx.map fun p => row (p.2 + 1) p.1) ++ ["", "### Policy rules that triggered"]) ++
        "" :: (statements vs).flatMap fun s => [block s, ""] := by
    rw [reportLines]
    simp only [List.append_assoc, List.cons_append, List.nil_append]
  have hblocks : ("" :: (statements vs).flatMap fun s => [block s, ""]).map String.toList =
      [] :: (statements vs).flatMap fun s => [(block s).toList, []] := by
    rw [List.map_cons, List.map_flatMap]
    rfl
  have hnewline : "\n".toList = ['\n'] := rfl
  apply String.toList_injective
  rw [report, hlines, reportFront, String.toList_append, String.toList_append,
    String.toList_intercalate, String.toList_intercalate, List.map_append, hblocks, hnewline,
    Text.intercalate_append (by simp) (List.cons_ne_nil _ _), intercalate_blocks]

/-! ## Reading the blocks -/

/-- The lines around a statement. -/
def blockStart : List Char :=
  "\x60\x60\x60cedar".toList

def blockEnd : List Char :=
  "\x60\x60\x60".toList

/-- The texts of the blocks in some lines. A block that is open holds the lines since its first. -/
def readBlocks : Option (List (List Char)) → List (List Char) → List String
  | _, [] => []
  | none, line :: rest => readBlocks (if line = blockStart then some [] else none) rest
  | some body, line :: rest =>
    if line = blockEnd then
      String.ofList (['\n'].intercalate body) :: readBlocks none rest
    else readBlocks (some (body ++ [line])) rest

/-- The blocks of statements in a text. -/
def blocksIn (text : String) : List String :=
  readBlocks none (text.toList.splitOn '\n')

/-- No line of a statement is the end of a block. -/
def IsUnfenced (s : String) : Prop :=
  blockEnd ∉ s.toList.splitOn '\n'

instance (s : String) : Decidable (IsUnfenced s) :=
  inferInstanceAs (Decidable (_ ∉ _))

theorem readBlocks_empty_line (rest : List (List Char)) :
    readBlocks none ([] :: rest) = readBlocks none rest := by
  have h : ([] : List Char) ≠ blockStart := by
    decide
  rw [readBlocks, if_neg h]

theorem readBlocks_start (rest : List (List Char)) :
    readBlocks none (blockStart :: rest) = readBlocks (some []) rest := by
  rw [readBlocks, if_pos (Eq.refl blockStart)]

theorem readBlocks_body {lines : List (List Char)} (h : blockEnd ∉ lines)
    (body rest : List (List Char)) :
    readBlocks (some body) (lines ++ blockEnd :: rest) =
      String.ofList (['\n'].intercalate (body ++ lines)) :: readBlocks none rest := by
  induction lines generalizing body with
  | nil => rw [List.nil_append, readBlocks, if_pos rfl, List.append_nil]
  | cons line lines ih =>
    rw [List.mem_cons, not_or] at h
    rw [List.cons_append, readBlocks, if_neg (Ne.symm h.1), ih h.2, List.append_assoc,
      List.singleton_append]

theorem toList_block (s : String) :
    (block s).toList = blockStart ++ '\n' :: (s.toList ++ '\n' :: blockEnd) := by
  have hstart : "\x60\x60\x60cedar\n".toList = blockStart ++ ['\n'] := by
    decide
  have hend : "\n\x60\x60\x60".toList = '\n' :: blockEnd := by
    decide
  rw [block, String.toList_append, String.toList_append, hstart, hend, List.append_assoc,
    List.append_assoc, List.singleton_append]

theorem splitOn_quotation_cons (s : String) (ss : List String) :
    (quotation (s :: ss)).toList.splitOn '\n' =
      [] :: blockStart :: (s.toList.splitOn '\n' ++
        blockEnd :: (quotation ss).toList.splitOn '\n') := by
  have hopen : '\n' ∉ blockStart := by
    decide
  have hclose : '\n' ∉ blockEnd := by
    decide
  rw [toList_quotation_cons, Text.splitOn_self_cons, toList_block, List.append_assoc,
    List.cons_append, List.append_assoc, List.cons_append,
    List.splitOn_append_cons_self_of_not_mem hopen, List.splitOn_append_cons_self,
    List.splitOn_append_cons_self_of_not_mem hclose]

/-- Blocks without ends of blocks in them are read as what was put in them. -/
theorem blocksIn_quotation {ss : List String} (h : ∀ s ∈ ss, IsUnfenced s) :
    blocksIn (quotation ss) = ss := by
  induction ss with
  | nil => rfl
  | cons s ss ih =>
    rw [List.forall_mem_cons] at h
    have hs : String.ofList (['\n'].intercalate (s.toList.splitOn '\n')) = s := by
      rw [List.intercalate_splitOn, String.ofList_toList]
    have hrest : readBlocks none ((quotation ss).toList.splitOn '\n') = ss := ih h.2
    rw [blocksIn, splitOn_quotation_cons, readBlocks_empty_line, readBlocks_start,
      readBlocks_body h.1, List.nil_append, hs, hrest]

/-- **Statements of a report.** After its heading a report has one block for each source of its
violations, and nothing else: every source is quoted, none of them twice, and in the order in
which they first occur, so that later repetitions are left out. If no source has a line that ends
a block, the blocks are read as these sources. -/
theorem report_quotes (vs : List Violation) :
    report vs = reportFront vs ++ quotation (statements vs) ∧
      statements vs = (sources vs).eraseDups ∧ FirstOccurrences (sources vs) (statements vs) ∧
      ((∀ v ∈ vs, IsUnfenced v.rule.source) →
        blocksIn (quotation (statements vs)) = statements vs) := by
  have hfirst := firstOccurrences_statements vs
  refine ⟨report_eq vs, statements_eq vs, hfirst, fun h => blocksIn_quotation fun s hs => ?_⟩
  obtain ⟨v, hv, rfl⟩ := List.mem_map.mp ((hfirst.mem_iff s).mp hs)
  exact h v hv

/-! Two conditions of one statement with another statement between them, and two components. -/

def modelStatement : String :=
  "forbid (principal, action, resource) when \x7b resource.name contains \"model\"\n" ++
    "resource.type == \"sdk\" \x7d;"

def chatStatement : String :=
  "forbid (principal, action, resource) when \x7b resource.name contains \"chat\" \x7d;"

def interleavedRules : List Rule :=
  [⟨.forbid, "*", "name", .contains, .text "model", modelStatement⟩,
    ⟨.forbid, "*", "name", .contains, .text "chat", chatStatement⟩,
    ⟨.forbid, "*", "type", .equals, .text "sdk", modelStatement⟩]

def interleavedComponents : List Component :=
  [[("component_type", .string "sdk"), ("name", .string "chat-model")],
    [("name", .string "model")]]

theorem quotes_interleavedRules :
    sources (evaluate interleavedRules interleavedComponents none) =
        [modelStatement, chatStatement, modelStatement, modelStatement] ∧
      (∀ v ∈ evaluate interleavedRules interleavedComponents none, IsUnfenced v.rule.source) ∧
      statements (evaluate interleavedRules interleavedComponents none) =
        [modelStatement, chatStatement] ∧
      blocksIn (quotation [modelStatement, chatStatement]) = [modelStatement, chatStatement] := by
  have hs : sources (evaluate interleavedRules interleavedComponents none) =
      [modelStatement, chatStatement, modelStatement, modelStatement] := by
    decide +kernel
  have hu : ∀ v ∈ evaluate interleavedRules interleavedComponents none,
      IsUnfenced v.rule.source := by
    decide +kernel
  obtain ⟨-, hquoted, -, hread⟩ :=
    report_quotes (evaluate interleavedRules interleavedComponents none)
  have hstatements := hquoted
  rw [hs] at hstatements
  have hfirsts : [modelStatement, chatStatement, modelStatement, modelStatement].eraseDups =
      [modelStatement, chatStatement] := by
    decide +kernel
  rw [hfirsts] at hstatements
  have hblocks := hread hu
  rw [hstatements] at hblocks
  exact ⟨hs, hu, hstatements, hblocks⟩

end PolicyGuard.Gate
