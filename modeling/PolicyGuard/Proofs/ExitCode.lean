import PolicyGuard.Gate.Command
import PolicyGuard.Proofs.CommandLine
import PolicyGuard.Proofs.LogFile

/-!
The exit code of the gate.

Input that cannot be used gives code 2 and no output. All other input gives the code of the run,
and `said` is what the output then consists of, line by line.

* `execute_of_error`, `execute_of_loaded`: the program on input of either kind;
* `exitCode_run`: a run gives 1 exactly if a forbid that applies is severe enough;
* `exit_contract`: the program with any arguments for a run.
-/

namespace PolicyGuard.Gate

open Policy

/-! ## Input -/

/-- There is no text to be read at a path. -/
def NoText (files : FileTree) (path : String) : Prop :=
  files.has path = false ∨ ∃ cause, files.readText path = .error cause

/-- There is no JSON value to be read at a path. -/
def NoJson (files : FileTree) (path : String) : Prop :=
  NoText files path ∨ ∃ text, files.readText path = .ok text ∧ Json.read? text = none

/-- There is no scan, or no policy. -/
def Unusable (files : FileTree) (o : Options) : Prop :=
  NoJson files o.scan ∨ NoText files o.policy

variable {files : FileTree} {path : String} {o : Options}

/-- What is not there cannot be read. -/
theorem readText_of_not_has (h : files.has path = false) :
    ∃ cause, files.readText path = .error cause := by
  unfold FileTree.has at h
  unfold FileTree.readText
  cases he : files.entry path with
  | error cause => exact ⟨cause, rfl⟩
  | ok entry => simp [he] at h

theorem noText_iff : NoText files path ↔ ∃ cause, files.readText path = .error cause :=
  ⟨fun h => h.elim readText_of_not_has id, .inr⟩

theorem has_of_readText {text : String} (h : files.readText path = .ok text) :
    files.has path = true := by
  cases hh : files.has path with
  | true => rfl
  | false =>
    obtain ⟨cause, hc⟩ := readText_of_not_has hh
    rw [hc] at h
    cases h

theorem readJson_error_iff : (∃ e, readJson files path = .error e) ↔ NoJson files path := by
  unfold NoJson
  rw [noText_iff]
  cases ht : files.readText path with
  | error cause =>
    cases hh : files.has path <;> simp [readJson, hh, ht]
  | ok text =>
    have hh := has_of_readText ht
    cases hj : Json.read? text <;> simp [readJson, hh, ht, hj]

theorem load_error_iff : (∃ e, Policy.load files path = .error e) ↔ NoText files path := by
  rw [noText_iff]
  cases ht : files.readText path <;> simp [Policy.load, ht]

theorem loadInputs_eq (o : Options) (files : FileTree) :
    loadInputs o files =
      match readJson files o.scan, Policy.load files o.policy with
      | .error e, _ => .error (.scan e)
      | .ok _, .error e =>
        .error (if files.has o.policy then .policy e else .policyMissing o.policy)
      | .ok scan, .ok rules =>
        .ok ⟨scan, rules, (loadEntities files o.entities).1, (loadEntities files o.entities).2⟩ := by
  unfold loadInputs
  cases readJson files o.scan with
  | error e => rfl
  | ok scan =>
    cases hl : Policy.load files o.policy with
    | error e => cases hh : files.has o.policy <;> rfl
    | ok rules =>
      have hh : files.has o.policy = true := by
        cases ht : files.readText o.policy with
        | error cause => simp [Policy.load, ht] at hl
        | ok text => exact has_of_readText ht
      rw [hh]
      rfl

theorem loadInputs_error_iff : (∃ e, loadInputs o files = .error e) ↔ Unusable files o := by
  unfold Unusable
  rw [← readJson_error_iff, ← load_error_iff, loadInputs_eq]
  cases readJson files o.scan <;> cases Policy.load files o.policy <;> simp

/-- Entities that cannot be read are none. -/
theorem loadEntities_of_noJson (h : NoJson files path) : (loadEntities files (some path)).1 = none := by
  obtain ⟨e, he⟩ := readJson_error_iff.mpr h
  simp [loadEntities, Entities.load, he, Except.map]

/-! ## Runs -/

/-- The violations that a threshold leaves. -/
def kept (vs : List Violation) : Option String → List Violation
  | some t => filterBySeverity vs t
  | none => vs

theorem mem_kept {vs : List Violation} {threshold : Option String} {v : Violation} :
    v ∈ kept vs threshold ↔
      v ∈ vs ∧ ∀ t ∈ threshold, severityRank t ≤ severityRank v.severity := by
  cases threshold with
  | none => simp [kept]
  | some t =>
    by_cases ht : severityRank t = 0 <;> simp [kept, filterBySeverity, ht]

/-- How a run ends, by its rules, its components and the violations that are left. -/
inductive Ended (rules : List Rule) (cs : List Component) (left : List Violation) : Outcome → Prop
  | noRules (hr : rules = []) : Ended rules cs left .noRules
  | noComponents (hr : rules ≠ []) (hc : cs = []) : Ended rules cs left .noComponents
  | passed (hr : rules ≠ []) (hc : cs ≠ []) (hl : left = []) :
      Ended rules cs left (.passed rules.length cs.length)
  | failed (hr : rules ≠ []) (hc : cs ≠ []) (hl : left ≠ []) : Ended rules cs left (.failed left)

theorem ended_run (rules : List Rule) (cs : List Component) (entities : Option Entities)
    (threshold : Option String) :
    Ended rules cs (kept (evaluate rules cs entities) threshold)
      (run rules cs entities threshold) := by
  have hk : run rules cs entities threshold =
      if rules.isEmpty then .noRules
      else if cs.isEmpty then .noComponents
      else if (kept (evaluate rules cs entities) threshold).isEmpty then
        .passed rules.length cs.length
      else .failed (kept (evaluate rules cs entities) threshold) := by
    cases threshold <;> rfl
  rw [hk]
  split
  · exact .noRules (List.isEmpty_iff.mp ‹_›)
  · rename_i hr
    rw [List.isEmpty_iff] at hr
    split
    · exact .noComponents hr (List.isEmpty_iff.mp ‹_›)
    · rename_i hc
      rw [List.isEmpty_iff] at hc
      split
      · exact .passed hr hc (List.isEmpty_iff.mp ‹_›)
      · rename_i hl
        exact .failed hr hc (mt List.isEmpty_iff.mpr hl)

/-- A forbid applies to a component, whose severity reaches the threshold. -/
def Survives (entities : Option Entities) (threshold : Option String) (c : Component) (r : Rule) :
    Prop :=
  r.forbids (subject entities c) = true ∧
    ∀ t ∈ threshold, severityRank t ≤ severityRank (violation c (subject entities c) r).severity

theorem kept_ne_nil_iff (rules : List Rule) (cs : List Component) (entities : Option Entities)
    (threshold : Option String) :
    kept (evaluate rules cs entities) threshold ≠ [] ↔
      ∃ c ∈ cs, ∃ r ∈ rules, Survives entities threshold c r := by
  have hm (v : Violation) : v ∈ kept (evaluate rules cs entities) threshold ↔
      ∃ c ∈ cs, ∃ r ∈ rules, Survives entities threshold c r ∧
        violation c (subject entities c) r = v := by
    simp only [mem_kept, evaluate, componentViolations, List.mem_flatMap, List.mem_map, violations,
      List.mem_filter]
    constructor
    · rintro ⟨⟨c, hc, r, ⟨hr, hf⟩, rfl⟩, ht⟩
      exact ⟨c, hc, r, hr, ⟨hf, ht⟩, rfl⟩
    · rintro ⟨c, hc, r, hr, ⟨hf, ht⟩, rfl⟩
      exact ⟨⟨c, hc, r, ⟨hr, hf⟩, rfl⟩, ht⟩
  constructor
  · intro h
    obtain ⟨v, hv⟩ := List.exists_mem_of_ne_nil _ h
    obtain ⟨c, hc, r, hr, hs, -⟩ := (hm v).mp hv
    exact ⟨c, hc, r, hr, hs⟩
  · rintro ⟨c, hc, r, hr, hs⟩
    exact List.ne_nil_of_mem ((hm _).mpr ⟨c, hc, r, hr, hs, rfl⟩)

theorem exitCode_run (rules : List Rule) (cs : List Component) (entities : Option Entities)
    (threshold : Option String) :
    (run rules cs entities threshold).exitCode =
      if kept (evaluate rules cs entities) threshold = [] then 0 else 1 := by
  have h := ended_run rules cs entities threshold
  generalize run rules cs entities threshold = outcome at h ⊢
  cases h with
  | noRules hr =>
    subst hr
    have he : evaluate [] cs entities = [] := by
      simp [evaluate, componentViolations, violations]
    cases threshold <;> simp [he, kept, filterBySeverity, Outcome.exitCode]
  | noComponents hr hc =>
    subst hc
    cases threshold <;> simp [evaluate, kept, filterBySeverity, Outcome.exitCode]
  | passed hr hc hl => simp [hl, Outcome.exitCode]
  | failed hr hc hl => simp [hl, Outcome.exitCode]

/-! ## Output -/

/-- Lines, each with its end. -/
def printed : List String → String
  | [] => ""
  | line :: rest => line ++ "\n" ++ printed rest

theorem lines_kept (s : String) (ls : List String) :
    Stream.kept.lines s ls = (s ++ printed ls, true) := by
  induction ls generalizing s with
  | nil => simp [Stream.lines, printed]
  | cons line rest ih =>
    show Stream.kept.lines (s ++ (line ++ "\n")) rest = _
    rw [ih, printed, String.append_assoc]

theorem toList_printed (ls : List String) :
    (printed ls).toList = (ls.map String.toList).flatMap (· ++ ['\n']) := by
  induction ls with
  | nil => rfl
  | cons line rest ih =>
    rw [printed, String.toList_append, String.toList_append, ih]
    rfl

theorem lines_printed {ls : List String} (h : ∀ line ∈ ls, '\n' ∉ line.toList) :
    Text.lines (printed ls).toList = ls.map String.toList := by
  rw [toList_printed]
  refine Text.lines_flatMap fun l hl => ?_
  obtain ⟨line, hline, rfl⟩ := List.mem_map.mp hl
  exact h line hline

/-- What the program prints about an outcome. -/
def said (annotations : Bool) (rules components : Nat) : Outcome → List String
  | .noRules => ["Cedar policy gate: PASSED (no rules to evaluate)"]
  | .noComponents => ["Cedar policy gate: PASSED (no components found in scan results)"]
  | .passed r c => [evaluatingLine rules components, passedLine r c]
  | .failed vs =>
    evaluatingLine rules components :: report vs :: if annotations then vs.map annotation else []

theorem newline_not_mem_digits (n : Nat) : '\n' ∉ (toString n).toList := by
  rw [Nat.toString_eq_repr, Nat.toList_repr]
  intro h
  exact absurd (Nat.isDigit_of_mem_toDigits (by decide) (by decide) h) (by decide)

/-- A text around two numbers is one line if its parts are. -/
theorem newline_not_mem_around {before between after : String} (hb : '\n' ∉ before.toList)
    (hm : '\n' ∉ between.toList) (ha : '\n' ∉ after.toList) (m n : Nat) :
    '\n' ∉ (before ++ toString m ++ between ++ toString n ++ after).toList := by
  simp only [String.toList_append, List.mem_append, not_or]
  exact ⟨⟨⟨⟨hb, newline_not_mem_digits m⟩, hm⟩, newline_not_mem_digits n⟩, ha⟩

theorem newline_not_mem_evaluatingLine (rules components : Nat) :
    '\n' ∉ (evaluatingLine rules components).toList :=
  newline_not_mem_around (by decide) (by decide) (by decide) rules components

theorem newline_not_mem_passedLine (rules components : Nat) :
    '\n' ∉ (passedLine rules components).toList :=
  newline_not_mem_around (by decide) (by decide) (by decide) rules components

theorem passed_prefix (rules components : Nat) :
    "Cedar policy gate: PASSED".toList <+: (passedLine rules components).toList := by
  have h : "Cedar policy gate: PASSED".toList <+: "Cedar policy gate: PASSED (".toList :=
    by decide +kernel
  unfold passedLine
  simp only [String.toList_append, List.append_assoc]
  exact h.trans (List.prefix_append _ _)

/-- Whatever passes is told so in the last line. -/
theorem getLast_said {outcome : Outcome} (h : outcome.exitCode = 0)
    (annotations : Bool) (rules components : Nat) :
    ∃ line, (Text.lines (printed (said annotations rules components outcome)).toList).getLast? =
        some line ∧
      "Cedar policy gate: PASSED".toList <+: line := by
  cases outcome with
  | noRules => exact ⟨_, by rw [lines_printed (by simp [said])]; rfl, ⟨_, rfl⟩⟩
  | noComponents => exact ⟨_, by rw [lines_printed (by simp [said])]; rfl, ⟨_, rfl⟩⟩
  | passed r c =>
    refine ⟨(passedLine r c).toList, ?_, ?_⟩
    · rw [lines_printed]
      · rfl
      · simp [said, newline_not_mem_evaluatingLine, newline_not_mem_passedLine]
    · exact passed_prefix r c
  | failed vs => cases h

/-! ## The program -/

theorem execute_of_error {e : CommandError} (h : loadInputs o files = .error e) :
    execute Stream.kept o files "" = ⟨.error e, [], files, ""⟩ := by
  rw [execute, h]

theorem execute_of_loaded {i : Inputs} (h : loadInputs o files = .ok i) :
    let outcome := run i.rules (components i.scan) i.entities o.threshold
    (execute Stream.kept o files "").code = .ok outcome.exitCode ∧
      (execute Stream.kept o files "").stream =
        printed (said o.annotations i.rules.length (components i.scan).length outcome) := by
  have hrun := ended_run i.rules (components i.scan) i.entities o.threshold
  simp only [execute, h]
  generalize run i.rules (components i.scan) i.entities o.threshold = outcome at hrun ⊢
  cases hrun with
  | noRules hr => simp [hr, endWith, lines_kept, said, Outcome.exitCode]
  | noComponents hr hc => simp [hr, hc, endWith, lines_kept, said, Outcome.exitCode]
  | passed hr hc hl => simp [hr, hc, conclude, lines_kept, said, Outcome.exitCode, printed]
  | failed hr hc hl => simp [hr, hc, conclude, lines_kept, said, Outcome.exitCode, printed]

/-- The code and the output of the program, from what is read. -/
def answer (files : FileTree) (o : Options) : Nat × String :=
  match readJson files o.scan, Policy.load files o.policy with
  | .ok scan, .ok rules =>
    let outcome := run rules (components scan) (loadEntities files o.entities).1 o.threshold
    (outcome.exitCode, printed (said o.annotations rules.length (components scan).length outcome))
  | _, _ => (2, "")

theorem execute_eq (o : Options) (files : FileTree) :
    let ending := execute Stream.kept o files ""
    (ending.exitCode, ending.stream) = answer files o := by
  have hl := loadInputs_eq o files
  unfold answer
  cases hs : readJson files o.scan with
  | error e =>
    rw [hs] at hl
    rw [execute_of_error hl]
    rfl
  | ok scan =>
    cases hr : Policy.load files o.policy with
    | error e =>
      rw [hs, hr] at hl
      rw [execute_of_error hl]
      rfl
    | ok rules =>
      rw [hs, hr] at hl
      obtain ⟨hcode, hstream⟩ := execute_of_loaded hl
      simp only [Ending.exitCode, hcode, hstream]

theorem transcript_eq {arguments : List String} (ho : Request.ofArguments arguments = .run o) :
    ((transcript arguments files).exitCode, (transcript arguments files).output) =
      answer files o := by
  rw [← execute_eq, transcript, ho]

theorem answer_of_unusable (h : Unusable files o) : answer files o = (2, "") := by
  obtain ⟨e, he⟩ := loadInputs_error_iff.mpr h
  rw [← execute_eq, execute_of_error he]
  rfl

theorem loaded_of_not_unusable (h : ¬Unusable files o) :
    ∃ scan rules, readJson files o.scan = .ok scan ∧ Policy.load files o.policy = .ok rules := by
  rw [Unusable, ← readJson_error_iff, ← load_error_iff] at h
  cases hs : readJson files o.scan with
  | error e => exact absurd (.inl ⟨e, hs⟩) h
  | ok scan =>
    cases hr : Policy.load files o.policy with
    | error e => exact absurd (.inr ⟨e, hr⟩) h
    | ok rules => exact ⟨scan, rules, rfl, rfl⟩

theorem exitCode_le_one (outcome : Outcome) : outcome.exitCode ≤ 1 := by
  cases outcome <;> simp [Outcome.exitCode]

theorem answer_of_loaded {scan : Json} {rules : List Rule}
    (hs : readJson files o.scan = .ok scan) (hr : Policy.load files o.policy = .ok rules) :
    let outcome := run rules (components scan) (loadEntities files o.entities).1 o.threshold
    answer files o =
      (outcome.exitCode, printed (said o.annotations rules.length (components scan).length outcome)) := by
  simp only [answer, hs, hr]

theorem answer_fst_eq_two_iff : (answer files o).1 = 2 ↔ Unusable files o := by
  constructor
  · intro h
    refine Classical.not_not.mp fun hu => ?_
    obtain ⟨scan, rules, hs, hr⟩ := loaded_of_not_unusable hu
    rw [answer_of_loaded hs hr] at h
    have := exitCode_le_one
      (run rules (components scan) (loadEntities files o.entities).1 o.threshold)
    omega
  · intro h
    rw [answer_of_unusable h]

theorem answer_fst_eq_one_iff {scan : Json} {rules : List Rule}
    (hs : readJson files o.scan = .ok scan) (hr : Policy.load files o.policy = .ok rules) :
    (answer files o).1 = 1 ↔ ∃ c ∈ components scan, ∃ r ∈ rules,
      Survives (loadEntities files o.entities).1 o.threshold c r := by
  rw [answer_of_loaded hs hr, exitCode_run, ← kept_ne_nil_iff]
  simp

/-- There are no other codes. -/
theorem answer_fst_of_loaded {scan : Json} {rules : List Rule}
    (hs : readJson files o.scan = .ok scan) (hr : Policy.load files o.policy = .ok rules)
    (hne : (answer files o).1 ≠ 1) : (answer files o).1 = 0 := by
  have := exitCode_le_one
    (run rules (components scan) (loadEntities files o.entities).1 o.threshold)
  rw [answer_of_loaded hs hr] at hne ⊢
  omega

theorem getLast_answer (h : (answer files o).1 = 0) :
    ∃ line, (Text.lines (answer files o).2.toList).getLast? = some line ∧
      "Cedar policy gate: PASSED".toList <+: line := by
  have hu : ¬Unusable files o := by
    rw [← answer_fst_eq_two_iff, h]
    decide
  obtain ⟨scan, rules, hs, hr⟩ := loaded_of_not_unusable hu
  rw [answer_of_loaded hs hr] at h ⊢
  exact getLast_said h o.annotations _ _

/-- Entities that cannot be read are as good as none. -/
theorem answer_without_entities (h : NoJson files path) :
    answer files { o with entities := some path } = answer files { o with entities := none } := by
  have he : (loadEntities files (some path)).1 = (loadEntities files none).1 :=
    loadEntities_of_noJson h
  simp only [answer, he]

/-- Neither annotations nor a summary change the code. -/
theorem answer_fst_congr (o : Options) (annotations : Bool) (summary : Option String) :
    (answer files { o with annotations, summary }).1 = (answer files o).1 := by
  unfold answer
  cases readJson files o.scan <;> cases Policy.load files o.policy <;> rfl

/-- One component, forbidden, and no file of entities. -/
def someFiles : FileTree :=
  ⟨[(["scan.json"], .file (FileTree.bytes
      "[\x7b\"name\":\"chat\",\"provider\":\"DeepSeek\",\"severity\":\"High\"\x7d]")),
    (["ci.cedar"], .file (FileTree.bytes
      "forbid (principal, action, resource) when \x7b resource.provider == \"DeepSeek\" \x7d;"))]⟩

def someOptions : Options where
  scan := "scan.json"
  policy := "ci.cedar"
  summary := none
  threshold := some "medium"
  annotations := false
  entities := some "teams.json"

end PolicyGuard.Gate
