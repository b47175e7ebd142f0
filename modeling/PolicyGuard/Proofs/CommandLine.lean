import Mathlib.Data.List.Nodup
import PolicyGuard.Gate.Arguments

/-!
The command lines of the gate.

Options are accepted in any combination, as long as no path is empty and the threshold is one of
the four labels.

* `valid_of_ofArguments`: no command line asks for other options;
* `ofArguments_arguments`: a command line for any of these;
* `accepted_iff`: both.
-/

namespace PolicyGuard.Gate

/-- The values that an option may have. -/
def Setting.Allows (s : Setting) (value : String) : Prop :=
  match s with
  | summary => value ≠ ""
  | threshold => value ∈ Arguments.thresholds
  | entities => value ≠ ""

/-- Options with usable paths and a label for a threshold. -/
structure Options.Valid (o : Options) : Prop where
  scan : o.scan ≠ ""
  policy : o.policy ≠ ""
  summary : ∀ path ∈ o.summary, path ≠ ""
  threshold : ∀ label ∈ o.threshold, label ∈ Arguments.thresholds
  entities : ∀ path ∈ o.entities, path ≠ ""

namespace Arguments

variable {a b : Arguments} {o : Options}

/-! ## What is accepted -/

/-- All that is known so far may be. -/
structure Sound (a : Arguments) : Prop where
  places : ∀ path ∈ a.places, path ≠ ""
  settings : ∀ p ∈ a.settings, p.1.Allows p.2

theorem sound_empty : Sound {} := by
  constructor <;> simp

theorem addPlace?_eq_some {path : String} (h : a.addPlace? path = some b) :
    path ≠ "" ∧ b = { a with places := a.places ++ [path] } := by
  unfold addPlace? at h
  split at h
  · cases h
  · rename_i hn
    simp only [Bool.or_eq_true, String.isEmpty_iff, decide_eq_true_eq, not_or] at hn
    exact ⟨hn.1, (Option.some.inj h).symm⟩

theorem allows_iff {s : Setting} {value : String} :
    (if s = .threshold then thresholds.contains value else !value.isEmpty) = true ↔
      s.Allows value := by
  cases s <;> simp [Setting.Allows]

theorem addSetting?_eq_some {s : Setting} {value : String} :
    a.addSetting? s value = some b ↔
      s.Allows value ∧ a.settings.lookup s = none ∧
        b = { a with settings := (s, value) :: a.settings } := by
  unfold addSetting?
  rw [← allows_iff]
  generalize (if s = .threshold then thresholds.contains value else !value.isEmpty) = valid
  cases valid <;> cases a.settings.lookup s <;> simp [eq_comm]

theorem Sound.addPlace (h : a.Sound) {path : String} (hb : a.addPlace? path = some b) :
    b.Sound := by
  obtain ⟨hp, rfl⟩ := addPlace?_eq_some hb
  refine ⟨?_, h.settings⟩
  rw [List.forall_mem_append, List.forall_mem_singleton]
  exact ⟨h.places, hp⟩

theorem Sound.addSetting (h : a.Sound) {s : Setting} {value : String}
    (hb : a.addSetting? s value = some b) : b.Sound := by
  obtain ⟨ha, -, rfl⟩ := addSetting?_eq_some.mp hb
  refine ⟨h.places, ?_⟩
  rw [List.forall_mem_cons]
  exact ⟨ha, h.settings⟩

theorem Sound.addAnnotations (h : a.Sound) (hb : a.addAnnotations? = some b) : b.Sound := by
  unfold addAnnotations? at hb
  split at hb
  · cases hb
  · obtain rfl := Option.some.inj hb
    exact ⟨h.places, h.settings⟩

theorem valid_of_finish (h : a.Sound) (ho : a.finish = .run o) : o.Valid := by
  have hs (s : Setting) : ∀ value ∈ a.settings.lookup s, s.Allows value := by
    intro value hv
    obtain ⟨before, after, hl, -⟩ := List.lookup_eq_some_iff.mp hv
    exact h.settings (s, value) (by simp [hl])
  unfold finish at ho
  split at ho
  · rename_i scan policy hp
    obtain rfl := Request.run.inj ho
    exact ⟨h.places scan (by simp [hp]), h.places policy (by simp [hp]), hs .summary,
      hs .threshold, hs .entities⟩
  · cases ho

theorem valid_of_readPlaces (h : a.Sound) {arguments : List String}
    (ho : a.readPlaces arguments = .run o) : o.Valid := by
  induction arguments generalizing a with
  | nil =>
    rw [readPlaces] at ho
    exact valid_of_finish h ho
  | cons arg rest ih =>
    rw [readPlaces] at ho
    split at ho
    · rename_i b hb
      exact ih (h.addPlace hb) ho
    · cases ho

/-- What is read on is read from arguments that are sound again. -/
theorem exists_of_continueWith {rest : List String} {next : Option Arguments}
    (ho : continueWith rest next = .run o) : ∃ b, next = some b ∧ b.readFrom rest = .run o := by
  cases next with
  | none => rw [continueWith] at ho; cases ho
  | some b =>
    rw [continueWith] at ho
    exact ⟨b, rfl, ho⟩

theorem valid_of_readFrom (h : a.Sound) {arguments : List String}
    (ho : a.readFrom arguments = .run o) : o.Valid := by
  -- an option takes up to two arguments, so the induction is on how many there are
  induction hn : arguments.length using Nat.strongRecOn generalizing a arguments with
  | ind n ih =>
    have hrest {rest : List String} (hlt : rest.length < n) {next : Option Arguments}
        (hnext : ∀ b, next = some b → b.Sound) (ho : continueWith rest next = .run o) :
        o.Valid := by
      obtain ⟨b, hb, ho⟩ := exists_of_continueWith ho
      exact ih _ hlt (hnext b hb) ho rfl
    cases arguments with
    | nil =>
      rw [readFrom] at ho
      exact valid_of_finish h ho
    | cons arg rest =>
      rw [List.length_cons] at hn
      rw [readFrom] at ho
      split at ho
      · exact valid_of_readPlaces h ho
      · split at ho
        · exact hrest (by omega) (fun _ => h.addAnnotations) ho
        · exact hrest (by omega) (fun _ => h.addSetting) ho
        · cases rest with
          | nil => rw [readSetting] at ho; cases ho
          | cons value rest =>
            rw [List.length_cons] at hn
            rw [readSetting] at ho
            split at ho
            · cases ho
            · exact hrest (by omega) (fun _ => h.addSetting) ho
        all_goals cases ho
      · cases ho
      · cases ho
      · cases ho
      · exact hrest (by omega) (fun _ => h.addPlace) ho

end Arguments

theorem valid_of_ofArguments {arguments : List String} {o : Options}
    (h : Request.ofArguments arguments = .run o) : o.Valid :=
  Arguments.valid_of_readFrom Arguments.sound_empty h

/-! ## What can be asked for -/

def Setting.name : Setting → String
  | summary => "summary"
  | threshold => "fail-on-severity"
  | entities => "entities"

/-- An option with its value in one argument. -/
def Setting.argument (s : Setting) (value : String) : String :=
  "--" ++ s.name ++ "=" ++ value

namespace Options

/-- The options that have a value. -/
def settings (o : Options) : List (Setting × String) :=
  o.summary.toList.map (.summary, ·) ++ o.threshold.toList.map (.threshold, ·) ++
    o.entities.toList.map (.entities, ·)

/-- A command line for some options. -/
def arguments (o : Options) : List String :=
  o.settings.map (fun p => p.1.argument p.2) ++
    ((if o.annotations then ["--annotations"] else []) ++ ["--", o.scan, o.policy])

theorem Valid.allows {o : Options} (h : o.Valid) : ∀ p ∈ o.settings, p.1.Allows p.2 := by
  simp only [settings, List.forall_mem_append, List.forall_mem_map, Option.mem_toList]
  exact ⟨⟨h.summary, h.threshold⟩, h.entities⟩

theorem nodup_settings (o : Options) : (o.settings.map Prod.fst).Nodup := by
  unfold settings
  cases o.summary <;> cases o.threshold <;> cases o.entities <;> simp

theorem lookup_settings (o : Options) :
    o.settings.reverse.lookup .summary = o.summary ∧
      o.settings.reverse.lookup .threshold = o.threshold ∧
      o.settings.reverse.lookup .entities = o.entities := by
  unfold settings
  cases o.summary <;> cases o.threshold <;> cases o.entities <;> exact ⟨rfl, rfl, rfl⟩

end Options

namespace Arguments

variable {a b : Arguments} {o : Options}

theorem long_argument (s : Setting) (value : List Char) :
    long (s.name.toList ++ '=' :: value) = .settingTo s (String.ofList value) := by
  cases s <;> simp [long, Setting.name, Setting.ofName?]

theorem readFrom_argument (a : Arguments) (s : Setting) (value : String) (rest : List String) :
    a.readFrom (s.argument value :: rest) = continueWith rest (a.addSetting? s value) := by
  have ht : (s.argument value).toList = '-' :: '-' :: (s.name.toList ++ '=' :: value.toList) := by
    simp [Setting.argument]
  rw [readFrom]
  split
  · rename_i hd
    simp [ht] at hd
  · rename_i name _ hd
    obtain rfl : name = s.name.toList ++ '=' :: value.toList := by simpa [ht] using hd.symm
    rw [long_argument, String.ofList_toList]
  all_goals simp_all

theorem readFrom_annotations (h : a.annotations = false) (rest : List String) :
    a.readFrom ("--annotations" :: rest) = { a with annotations := true }.readFrom rest := by
  simp [readFrom, long, continueWith, addAnnotations?, h]

/-- Options that are all new are read one after the other. -/
theorem readFrom_settings (ps : List (Setting × String)) (ha : ∀ p ∈ ps, p.1.Allows p.2)
    (hn : ((ps.reverse ++ a.settings).map Prod.fst).Nodup) (rest : List String) :
    a.readFrom (ps.map (fun p => p.1.argument p.2) ++ rest) =
      { a with settings := ps.reverse ++ a.settings }.readFrom rest := by
  induction ps generalizing a with
  | nil => rfl
  | cons p ps ih =>
    rw [List.forall_mem_cons] at ha
    rw [List.reverse_cons, List.append_assoc, List.singleton_append] at hn ⊢
    have hm : p.1 ∉ a.settings.map Prod.fst := by
      rw [List.map_append, List.map_cons, List.nodup_middle, List.nodup_cons] at hn
      exact fun h => hn.1 (List.mem_append_right _ h)
    have hl : a.settings.lookup p.1 = none := by
      rw [List.lookup_eq_none_iff]
      intro q hq
      rw [bne_iff_ne]
      exact fun h => hm (h ▸ List.mem_map_of_mem hq)
    have hb : a.addSetting? p.1 p.2 = some { a with settings := p :: a.settings } :=
      addSetting?_eq_some.mpr ⟨ha.1, hl, rfl⟩
    rw [List.map_cons, List.cons_append, readFrom_argument, hb, continueWith]
    exact ih ha.2 hn

theorem readPlaces_pair {scan policy : String} (hs : scan ≠ "") (hp : policy ≠ "")
    (ha : a.places = []) :
    a.readPlaces [scan, policy] = { a with places := [scan, policy] }.finish := by
  simp [readPlaces, addPlace?, ha, hs, hp]

end Arguments

theorem ofArguments_arguments {o : Options} (h : o.Valid) :
    Request.ofArguments o.arguments = .run o := by
  have hn : ((o.settings.reverse ++ []).map Prod.fst).Nodup := by
    rw [List.append_nil, List.map_reverse, List.nodup_reverse]
    exact o.nodup_settings
  obtain ⟨hsummary, hthreshold, hentities⟩ := o.lookup_settings
  unfold Request.ofArguments Options.arguments
  rw [Arguments.readFrom_settings o.settings h.allows hn, List.append_nil]
  cases ha : o.annotations with
  | false =>
    show Arguments.readFrom _ ["--", o.scan, o.policy] = _
    simp [Arguments.readFrom, Arguments.readPlaces_pair h.scan h.policy, Arguments.finish,
      hsummary, hthreshold, hentities, ← ha]
  | true =>
    show Arguments.readFrom _ ["--annotations", "--", o.scan, o.policy] = _
    rw [Arguments.readFrom_annotations rfl]
    simp [Arguments.readFrom, Arguments.readPlaces_pair h.scan h.policy, Arguments.finish,
      hsummary, hthreshold, hentities, ← ha]

theorem accepted_iff {o : Options} :
    (∃ arguments, Request.ofArguments arguments = .run o) ↔ o.Valid :=
  ⟨fun ⟨_, h⟩ => valid_of_ofArguments h, fun h => ⟨_, ofArguments_arguments h⟩⟩

end PolicyGuard.Gate
