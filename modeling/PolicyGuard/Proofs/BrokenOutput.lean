import PolicyGuard.Proofs.ExitCode

/-!
Output that breaks.

The program writes its lines in turn and stops at the first that is refused. A run that fails
keeps its code, and its summary, once its first line is out; a stream that refuses that line
ends it with the code for input that cannot be used.

* `lines_bounded`: what a stream with room for some bytes takes;
* `execute_of_failed`: the end of a run that fails, for every stream;
* `failed_broken`: its code, its files and its output, compared with a stream that keeps all.
-/

namespace PolicyGuard.Gate

/-! ## Streams -/

/-- A stream that has room for some bytes, and the bytes that it took. -/
def Stream.bounded : Stream (Nat × List UInt8) :=
  ⟨fun (room, taken) text =>
    let content := FileTree.bytes text
    ((room - content.length, taken ++ content.take room), content.length ≤ room)⟩

/-- A stream that takes some texts. -/
def Stream.counted : Stream Nat :=
  ⟨fun left _ => (left - 1, 0 < left)⟩

theorem lines_cons {σ : Type} (out : Stream σ) (s : σ) (line : String) (rest : List String) :
    out.lines s (line :: rest) =
      if (out.write s (line ++ "\n")).2 then out.lines (out.write s (line ++ "\n")).1 rest
      else ((out.write s (line ++ "\n")).1, false) :=
  rfl

/-- Lines are cut where the room ends, wherever that is. -/
theorem lines_bounded (room : Nat) (taken : List UInt8) (ls : List String) :
    Stream.bounded.lines (room, taken) ls =
      let content := FileTree.bytes (printed ls)
      ((room - content.length, taken ++ content.take room), decide (content.length ≤ room)) := by
  induction ls generalizing room taken with
  | nil => simp [Stream.lines, printed, FileTree.bytes]
  | cons line rest ih =>
    rw [printed, FileTree.bytes_append, lines_cons]
    simp only [Stream.bounded, decide_eq_true_eq] at ih ⊢
    generalize FileTree.bytes (line ++ "\n") = first
    generalize FileTree.bytes (printed rest) = others at ih ⊢
    by_cases hfits : first.length ≤ room
    · rw [if_pos hfits, ih, List.take_of_length_le hfits, List.take_append,
        List.take_of_length_le hfits, List.length_append, List.append_assoc, Nat.sub_sub]
      have hle : others.length ≤ room - first.length ↔ first.length + others.length ≤ room := by
        omega
      rw [decide_eq_decide.mpr hle]
    · have hnone : room - first.length = 0 := by omega
      have hmore : ¬first.length + others.length ≤ room := by omega
      rw [if_neg hfits, List.take_append, hnone, List.length_append, List.take_zero,
        List.append_nil, decide_eq_false hmore, ← Nat.sub_sub, hnone, Nat.zero_sub]

/-! ## Runs that fail -/

section
variable {files : FileTree} {o : Options} {i : Inputs} {vs : List Violation}

/-- Only violations give code 1. -/
theorem exists_failed_of_answer (h : (answer files o).1 = 1) :
    ∃ i vs, loadInputs o files = .ok i ∧
      run i.rules (components i.scan) i.entities o.threshold = .failed vs := by
  have hu : ¬Unusable files o := by
    rw [← answer_fst_eq_two_iff, h]
    decide
  obtain ⟨scan, rules, hs, hr⟩ := loaded_of_not_unusable hu
  rw [answer_of_loaded hs hr] at h
  have hi := loadInputs_eq o files
  rw [hs, hr] at hi
  generalize hv : run rules (components scan) (loadEntities files o.entities).1 o.threshold =
    outcome at h
  cases outcome with
  | failed vs => exact ⟨_, vs, hi, hv⟩
  | noRules => cases h
  | noComponents => cases h
  | passed r c => cases h

theorem execute_of_failed (hi : loadInputs o files = .ok i)
    (hv : run i.rules (components i.scan) i.entities o.threshold = .failed vs)
    {σ : Type} (out : Stream σ) (s : σ) :
    let first := evaluatingLine i.rules.length (components i.scan).length
    let written := out.lines s (said o.annotations i.rules.length (components i.scan).length
      (.failed vs))
    let refused := if written.2 then [] else
      ["failed to write report: " ++ CommandError.output.message]
    let summary := appendSummary files o.summary (report vs)
    execute out o files s =
      if (out.write s (first ++ "\n")).2 then
        ⟨.ok 1, i.warnings ++ refused ++ summary.2, summary.1, written.1⟩
      else ⟨.error .output, i.warnings, files, written.1⟩ := by
  -- violations are only found where there are rules and components
  have hend := ended_run i.rules (components i.scan) i.entities o.threshold
  rw [hv] at hend
  cases hend with
  | failed hr hc hl =>
    have hr' : i.rules.isEmpty = false := List.isEmpty_eq_false_iff.mpr hr
    have hc' : (components i.scan).isEmpty = false := List.isEmpty_eq_false_iff.mpr hc
    simp only [execute, hi, hr', hc', hv, conclude, said, Bool.false_eq_true, if_false,
      lines_cons out s (evaluatingLine _ _)]
    split <;> rfl

/-- Once its first line is out, a run that fails keeps its code and its summary on every stream,
and what cannot be written is a warning. Without that line it ends as for unusable input. -/
theorem failed_broken (hi : loadInputs o files = .ok i)
    (hv : run i.rules (components i.scan) i.entities o.threshold = .failed vs) :
    let first := evaluatingLine i.rules.length (components i.scan).length ++ "\n"
    let whole := execute Stream.kept o files ""
    whole.code = .ok 1 ∧
    (∀ (σ : Type) (out : Stream σ) (s : σ),
      let ending := execute out o files s
      if (out.write s first).2 then
        ending.code = .ok 1 ∧ ending.files = whole.files ∧
          whole.warnings.Sublist ending.warnings
      else ending.code = .error .output ∧ ending.exitCode = 2 ∧ ending.files = files) ∧
    (∀ texts, (execute Stream.counted o files texts).code = .ok 1 ↔ 0 < texts) ∧
    ∀ room,
      let ending := execute Stream.bounded o files (room, [])
      (ending.code = .ok 1 ↔ (FileTree.bytes first).length ≤ room) ∧
      ending.stream.2 = (FileTree.bytes whole.stream).take room ∧
      (ending.code = .ok 1 →
        (ending.warnings = whole.warnings ↔ (FileTree.bytes whole.stream).length ≤ room)) := by
  intro first whole
  have hwhole : whole = _ := execute_of_failed hi hv Stream.kept ""
  rw [lines_kept] at hwhole
  simp only [Stream.kept, if_true, List.append_nil, String.empty_append] at hwhole
  rw [hwhole]
  refine ⟨rfl, ?streams, ?texts, ?rooms⟩
  case streams =>
    intro σ out s ending
    have hending : ending = _ := execute_of_failed hi hv out s
    rw [hending]
    split
    · refine ⟨rfl, rfl, ?_⟩
      exact (List.sublist_append_left _ _).append_right _
    · exact ⟨rfl, rfl, rfl⟩
  case texts =>
    intro texts
    rw [execute_of_failed hi hv Stream.counted texts]
    cases texts with
    | zero => exact iff_of_false nofun (Nat.lt_irrefl 0)
    | succ n => exact iff_of_true rfl n.succ_pos
  case rooms =>
    intro room ending
    have hending : ending = _ := execute_of_failed hi hv Stream.bounded (room, [])
    rw [lines_bounded] at hending
    simp only [Stream.bounded, decide_eq_true_eq, List.nil_append] at hending
    rw [hending]
    by_cases hroom : (FileTree.bytes first).length ≤ room
    · rw [if_pos hroom]
      exact ⟨iff_of_true rfl hroom, rfl, fun _ => by simp⟩
    · rw [if_neg hroom]
      exact ⟨iff_of_false nofun hroom, rfl, nofun⟩

end

theorem failed_someScan :
    ∃ i vs, loadInputs someOptions someFiles = .ok i ∧
      run i.rules (components i.scan) i.entities someOptions.threshold = .failed vs :=
  exists_failed_of_answer (by decide +kernel)

/-- The first line is all that is taken. -/
theorem failed_broken_afterFirst :
    (∃ i vs, loadInputs someOptions someFiles = .ok i ∧
      run i.rules (components i.scan) i.entities someOptions.threshold = .failed vs) ∧
    (execute Stream.counted someOptions someFiles 1).code = .ok 1 ∧
    (execute Stream.counted someOptions someFiles 1).files =
      (execute Stream.kept someOptions someFiles "").files := by
  obtain ⟨i, vs, hi, hv⟩ := failed_someScan
  obtain ⟨-, hstreams, htexts, -⟩ := failed_broken hi hv
  exact ⟨⟨i, vs, hi, hv⟩, (htexts 1).mpr Nat.one_pos, (hstreams Nat Stream.counted 1).2.1⟩

/-- A stream that takes nothing makes the same violations look like unusable input. -/
theorem failed_unopened :
    (∃ i vs, loadInputs someOptions someFiles = .ok i ∧
      run i.rules (components i.scan) i.entities someOptions.threshold = .failed vs) ∧
    (execute Stream.counted someOptions someFiles 0).code = .error .output ∧
    (execute Stream.counted someOptions someFiles 0).exitCode = 2 := by
  obtain ⟨i, vs, hi, hv⟩ := failed_someScan
  have hending := execute_of_failed hi hv Stream.counted 0
  exact ⟨⟨i, vs, hi, hv⟩, congrArg Ending.code hending, congrArg Ending.exitCode hending⟩

end PolicyGuard.Gate
