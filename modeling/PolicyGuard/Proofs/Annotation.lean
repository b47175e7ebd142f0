import PolicyGuard.Proofs.ExitCode
import PolicyGuard.Proofs.Lowercase
import PolicyGuard.Proofs.Precedence

/-!
Annotations of violations.

An annotation starts with its level and goes on with texts of the scan and of the policy, which
stand in it as they are: a line break in one of them breaks the annotation. Its level looks at
the severity as it is spelled, where the rank of a severity passes over the blanks around it.

* `lines_annotations`: the lines of annotations, one for each violation unless a text breaks;
* `error_iff_severe`: the level of an annotation against the rank of its severity.
-/

namespace PolicyGuard.Gate

open Policy

/-! ## Parts of an annotation -/

theorem level_cases (v : Violation) : level v = "error" ∨ level v = "warning" := by
  unfold level
  split
  · exact .inl rfl
  · exact .inr rfl

/-- What follows the level. -/
def tail (v : Violation) : String :=
  place v ++ "::Policy violation: " ++ v.componentName ++ " (" ++ v.componentType ++ ") - " ++
    condition v.rule ++ " (actual: " ++ v.actualValue ++ ")"

theorem annotation_eq (v : Violation) : annotation v = "::" ++ level v ++ " " ++ tail v := by
  -- both by computation, as equation lemmas of such long texts take long to make
  have ha : annotation v = "::" ++ level v ++ " " ++ place v ++ "::Policy violation: " ++
      v.componentName ++ " (" ++ v.componentType ++ ") - " ++ condition v.rule ++ " (actual: " ++
      v.actualValue ++ ")" := rfl
  have ht : tail v = place v ++ "::Policy violation: " ++ v.componentName ++ " (" ++
      v.componentType ++ ") - " ++ condition v.rule ++ " (actual: " ++ v.actualValue ++ ")" := rfl
  rw [ha, ht]
  simp only [String.append_assoc]

/-- A line that is a command: an error or a warning. -/
def IsCommand (line : List Char) : Prop :=
  "::error ".toList <+: line ∨ "::warning ".toList <+: line

instance (line : List Char) : Decidable (IsCommand line) :=
  inferInstanceAs (Decidable (_ ∨ _))

/-- The characters of an annotation. -/
def annotationChars (v : Violation) : List Char :=
  String.toList <| annotation v

/-- How an annotation starts, by its level. -/
theorem annotationChars_eq (v : Violation) :
    annotationChars v =
      (if level v = "error" then "::error ".toList else "::warning ".toList) ++
        (tail v).toList := by
  rw [annotationChars, annotation_eq, String.toList_append]
  rcases level_cases v with h | h <;> rw [h] <;> rfl

/-! ## Lines -/

/-- The texts of a violation that its annotation shows. -/
def Violation.texts (v : Violation) : List String :=
  [v.filePath.getD "", v.componentName, v.componentType, v.rule.field, v.rule.value.asText,
    v.actualValue]

/-- The characters of these texts. -/
def Violation.chars (v : Violation) : List Char :=
  v.texts.flatMap String.toList

/-- The breaks in these texts. -/
def Violation.breaks (v : Violation) : Nat :=
  v.chars.count '\n'

theorem newline_not_mem_chars (v : Violation) :
    '\n' ∉ v.chars ↔ ∀ t ∈ v.texts, '\n' ∉ t.toList := by
  simp [Violation.chars]

theorem count_token (op : Operator) : op.token.toList.count '\n' = 0 := by
  cases op <;> decide

theorem count_place (v : Violation) :
    (place v).toList.count '\n' = (v.filePath.getD "").toList.count '\n' := by
  have hf : "file=".toList.count '\n' = 0 := by
    decide
  have hl : ",line=".toList.count '\n' = 0 := by
    decide
  have hd (n : Nat) : (toString n).toList.count '\n' = 0 :=
    List.count_eq_zero.mpr (newline_not_mem_digits n)
  unfold place
  cases v.filePath with
  | none => rfl
  | some file =>
    cases v.lineNumber <;>
      simp only [String.toList_append, List.count_append, Option.getD_some, hf, hl, hd,
        Nat.zero_add, Nat.add_zero]

/-- An annotation has the breaks of its texts and no others. -/
theorem count_annotationChars (v : Violation) : (annotationChars v).count '\n' = v.breaks := by
  have hs : (if level v = "error" then "::error ".toList else "::warning ".toList).count '\n' =
      0 := by
    split <;> decide
  rw [annotationChars_eq, List.count_append, hs, tail, condition, Violation.breaks,
    Violation.chars, Violation.texts]
  simp only [String.toList_append, List.count_append, List.flatMap_cons, List.flatMap_nil,
    count_place, count_token]
  simp
  omega

/-- The lines of one annotation. -/
def annotationLines (v : Violation) : List (List Char) :=
  (annotationChars v).splitOn '\n'

theorem length_annotationLines (v : Violation) : (annotationLines v).length = v.breaks + 1 := by
  rw [annotationLines, Text.length_splitOn, count_annotationChars]

theorem exists_annotationLines (v : Violation) :
    ∃ first more, annotationLines v = first :: more ∧ IsCommand first := by
  have hn : '\n' ∉ if level v = "error" then "::error ".toList else "::warning ".toList := by
    split <;> decide
  obtain ⟨first, more, h⟩ := Text.exists_splitOn_append hn (tail v).toList
  rw [← annotationChars_eq] at h
  refine ⟨_, more, h, ?_⟩
  split
  · exact .inl (List.prefix_append _ _)
  · exact .inr (List.prefix_append _ _)

theorem getLast?_annotationLines (v : Violation) : (annotationLines v).getLast? ≠ some [] := by
  obtain ⟨init, h⟩ : ∃ init, annotation v = init ++ ")" := ⟨_, rfl⟩
  rw [annotationLines, annotationChars, h, String.toList_append]
  exact Text.getLast?_splitOn (by decide) init.toList

/-- The lines of annotations with a break between them. -/
def annotated (vs : List Violation) : List (List Char) :=
  Text.lines ("\n".intercalate (vs.map annotation)).toList

theorem annotated_eq (vs : List Violation) : annotated vs = vs.flatMap annotationLines := by
  have hl : ∀ l ∈ vs.map annotationChars, (l.splitOn '\n').getLast? ≠ some [] := by
    intro l hl
    obtain ⟨v, -, rfl⟩ := List.mem_map.mp hl
    exact getLast?_annotationLines v
  have hj : ("\n".intercalate (vs.map annotation)).toList =
      ['\n'].intercalate (vs.map annotationChars) := by
    rw [String.toList_intercalate, List.map_map]
    rfl
  rw [annotated, hj, Text.lines_intercalate hl, List.flatMap_map]
  rfl

theorem length_annotated (vs : List Violation) :
    (annotated vs).length = vs.length + (vs.flatMap Violation.chars).count '\n' := by
  rw [annotated_eq]
  induction vs with
  | nil => rfl
  | cons v rest ih =>
    rw [List.flatMap_cons, List.length_append, ih, length_annotationLines, Violation.breaks,
      List.flatMap_cons, List.count_append, List.length_cons]
    omega

/-- **Lines of annotations.** Each annotation starts with a command and goes on for one line more
than its texts have breaks. So annotations with a break between them are exactly one line for each
violation if and only if no text has a break, and then every line is a command. -/
theorem lines_annotations (vs : List Violation) :
    annotated vs = vs.flatMap annotationLines ∧
      (∀ v ∈ vs, ∃ first more, annotationLines v = first :: more ∧ IsCommand first ∧
        more.length = v.breaks) ∧
      ((annotated vs).length = vs.length ↔ ∀ v ∈ vs, ∀ t ∈ v.texts, '\n' ∉ t.toList) ∧
      ((∀ v ∈ vs, ∀ t ∈ v.texts, '\n' ∉ t.toList) →
        annotated vs = vs.map annotationChars ∧
          ∀ line ∈ annotated vs, IsCommand line) := by
  have hone : ∀ v ∈ vs, ∃ first more, annotationLines v = first :: more ∧ IsCommand first ∧
      more.length = v.breaks := by
    intro v _
    obtain ⟨first, more, h, hf⟩ := exists_annotationLines v
    have hl := length_annotationLines v
    rw [h, List.length_cons, Nat.add_right_cancel_iff] at hl
    exact ⟨first, more, h, hf, hl⟩
  refine ⟨annotated_eq vs, hone, ?count, ?whole⟩
  case count =>
    simp only [length_annotated, Nat.add_eq_left, List.count_eq_zero, List.mem_flatMap, not_exists,
      not_and, newline_not_mem_chars]
  case whole =>
    intro h
    have hs : ∀ v ∈ vs, annotationLines v = [annotationChars v] := by
      intro v hv
      have hb : v.breaks = 0 := List.count_eq_zero.mpr ((newline_not_mem_chars v).mpr (h v hv))
      rw [← count_annotationChars, List.count_eq_zero] at hb
      exact List.splitOn_eq_singleton hb
    have ha : annotated vs = vs.map annotationChars := by
      rw [annotated_eq, List.map_eq_flatMap]
      exact List.flatMap_congr hs
    refine ⟨ha, fun line hline => ?_⟩
    rw [ha] at hline
    obtain ⟨v, hv, rfl⟩ := List.mem_map.mp hline
    obtain ⟨first, more, hfm, hf, -⟩ := hone v hv
    rw [hs v hv] at hfm
    obtain ⟨rfl, -⟩ := List.cons.inj hfm
    exact hf

/-! Components under one forbid: a plain one, one whose severity has blanks around it, and one
whose name has a break. -/

def forbidHigh : Rule :=
  ⟨.forbid, "*", "severity", .greaterOrEqual, .text "high",
    "forbid (principal, action, resource) when \x7b resource.severity >= \"high\" \x7d;"⟩

def plainComponent : Component :=
  [("file_path", .string "app.py"), ("line_number", .ofNat 3), ("name", .string "model"),
    ("severity", .string "Critical")]

def plainViolation : Violation :=
  ⟨forbidHigh, "model", "unknown", "Critical", "critical", some "app.py", some 3⟩

def blankComponent : Component :=
  [("name", .string "model"), ("severity", .string " High ")]

def blankViolation : Violation :=
  ⟨forbidHigh, "model", "unknown", " High ", " high ", none, none⟩

def brokenComponent : Component :=
  [("name", .string "model\n::error ::forged"), ("severity", .string "high")]

def brokenViolation : Violation :=
  ⟨forbidHigh, "model\n::error ::forged", "unknown", "high", "high", none, none⟩

theorem lines_plainViolation :
    (∀ v ∈ [plainViolation, blankViolation], ∀ t ∈ v.texts, '\n' ∉ t.toList) ∧
      annotated [plainViolation, blankViolation] =
        [annotationChars plainViolation, annotationChars blankViolation] ∧
      (∀ line ∈ annotated [plainViolation, blankViolation], IsCommand line) ∧
      ∃ first more, annotationLines brokenViolation = first :: more ∧ IsCommand first ∧
        more.length = 1 := by
  obtain ⟨-, -, -, hwhole⟩ := lines_annotations [plainViolation, blankViolation]
  obtain ⟨-, hone, -, -⟩ := lines_annotations [brokenViolation]
  have hflat : ∀ v ∈ [plainViolation, blankViolation], ∀ t ∈ v.texts, '\n' ∉ t.toList := by
    decide
  have hbroken : brokenViolation.breaks = 1 := by
    decide
  exact ⟨hflat, hwhole hflat |>.1, hwhole hflat |>.2,
    hbroken ▸ hone brokenViolation (List.mem_singleton_self _)⟩

/-- Not every violation has one line: the name of a component can add commands. -/
theorem lines_brokenComponent :
    ¬ ∀ (rules : List Rule) (cs : List Component) (entities : Option Entities),
      (annotated (evaluate rules cs entities)).length = (evaluate rules cs entities).length ∧
        ∀ line ∈ annotated (evaluate rules cs entities), IsCommand line := by
  intro h
  exact absurd (h [forbidHigh] [brokenComponent] none).1 (by decide +kernel)

/-! ## Levels -/

/-- The severities that are at least high. -/
theorem high_le_iff (label : String) :
    severityRank "high" ≤ severityRank label ↔
      Text.lowerAscii (Text.trim label) = "critical" ∨
        Text.lowerAscii (Text.trim label) = "high" := by
  have hh : severityRank "high" = 3 := by
    decide +kernel
  rw [hh, severityRank]
  split <;> simp_all

theorem error_iff_level (v : Violation) :
    "::error".toList <+: annotationChars v ↔ level v = "error" := by
  rw [annotationChars_eq]
  by_cases h : level v = "error"
  · have hp : "::error".toList <+: "::error ".toList := ⟨[' '], rfl⟩
    simp only [h, ↓reduceIte, iff_true]
    exact hp.trans (List.prefix_append _ _)
  · simp [h]

/-- Lower case is what a label of a rank is compared in. -/
theorem exists_severity {rules : List Rule} {cs : List Component} {entities : Option Entities}
    {v : Violation} (hv : v ∈ evaluate rules cs entities) : ∃ s, v.severity = Text.lower s := by
  obtain ⟨c, -, hv⟩ := List.mem_flatMap.mp hv
  obtain ⟨r, -, rfl⟩ := List.mem_map.mp hv
  exact ⟨_, rfl⟩

/-- A severity in lower case is spelled as a severe label exactly if its rank is at least high
and there are no blanks around it. -/
theorem spelled_iff {s : String} (hs : Text.lowerAscii s = s) :
    s = "critical" ∨ s = "high" ↔ severityRank "high" ≤ severityRank s ∧ Text.trim s = s := by
  rw [high_le_iff]
  constructor
  · rintro (rfl | rfl) <;> decide +kernel
  · rintro ⟨h, ht⟩
    rwa [ht, hs] at h

/-- **Levels.** The annotation of a violation is an error exactly if its rank is at least high, as
the filter has it, and no blanks stand around its label. -/
theorem error_iff_severe {rules : List Rule} {cs : List Component} {entities : Option Entities}
    {v : Violation} (hv : v ∈ evaluate rules cs entities) :
    ("::error".toList <+: annotationChars v ↔
      v ∈ filterBySeverity (evaluate rules cs entities) "high" ∧
        Text.trim v.severity = v.severity) ∧
    (v ∈ filterBySeverity (evaluate rules cs entities) "high" ↔
      severityRank "high" ≤ severityRank v.severity) := by
  obtain ⟨s, hs⟩ := exists_severity hv
  have hlow : Text.lowerAscii v.severity = v.severity := by
    rw [hs, Text.lowerAscii_lower]
  have hkept : v ∈ filterBySeverity (evaluate rules cs entities) "high" ↔
      severityRank "high" ≤ severityRank v.severity := by
    have hm : v ∈ kept (evaluate rules cs entities) (some "high") ↔ _ := mem_kept
    simpa [kept, hv] using hm
  have hlevel : level v = "error" ↔ v.severity = "critical" ∨ v.severity = "high" := by
    unfold level
    by_cases hc : v.severity = "critical" <;> simp [hc]
  refine ⟨?_, hkept⟩
  rw [error_iff_level, hlevel, spelled_iff hlow, hkept]

theorem error_plainViolation :
    plainViolation ∈ evaluate [forbidHigh] [plainComponent] none ∧
      "::error".toList <+: annotationChars plainViolation ∧
      blankViolation ∈ evaluate [forbidHigh] [blankComponent] none ∧
      blankViolation ∈ filterBySeverity (evaluate [forbidHigh] [blankComponent] none) "high" ∧
      ¬"::error".toList <+: annotationChars blankViolation := by
  have hplain : plainViolation ∈ evaluate [forbidHigh] [plainComponent] none := by
    decide +kernel
  have hblank : blankViolation ∈ evaluate [forbidHigh] [blankComponent] none := by
    decide +kernel
  obtain ⟨herror, hkept⟩ := error_iff_severe hplain
  obtain ⟨herror', hkept'⟩ := error_iff_severe hblank
  exact ⟨hplain, herror.mpr ⟨hkept.mpr (by decide +kernel), by decide +kernel⟩, hblank,
    hkept'.mpr (by decide +kernel), fun he => absurd (herror'.mp he).2 (by decide +kernel)⟩

/-- Not every severe violation is an error: blanks around its label make it a warning. -/
theorem error_blankComponent :
    ¬ ∀ (rules : List Rule) (cs : List Component) (entities : Option Entities) (v : Violation),
      v ∈ evaluate rules cs entities →
        ("::error".toList <+: annotationChars v ↔
          severityRank "high" ≤ severityRank v.severity) := by
  intro h
  have hblank : blankViolation ∈ evaluate [forbidHigh] [blankComponent] none := by
    decide +kernel
  exact absurd ((h _ _ _ _ hblank).mpr (by decide +kernel)) (by decide +kernel)

end PolicyGuard.Gate
