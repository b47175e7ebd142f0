import PolicyGuard.Proofs.WireForm

/-!
Events that are added to a log which is there already.

Whatever a file holds, an event is added to its bytes as the text of the event and a break. A file
without a break at its end so goes on with its last line: the first event is not on a line of its
own, while those after it are.

* `isLog_append`: a file that more is added to;
* `isLog_track`, `isLog_trackEach`: the bytes of a log after one event and after several;
* `grown_append`: its lines;
* `lines_trackEach`: both together, and the events that are read from the lines.
-/

namespace PolicyGuard

/-! ## Lines of a file -/

namespace FileTree

/-- The lines of a file without their ends. A last line that is empty does not count. -/
def lines (content : List UInt8) : List (List UInt8) :=
  Text.rows 10 content

/-- No line of a file is left without its end. -/
def EndsLine (content : List UInt8) : Prop :=
  Text.Ended 10 content

instance (content : List UInt8) : Decidable (EndsLine content) :=
  inferInstanceAs (Decidable (Text.Ended _ _))

/-! ## Content at a path -/

/-- The bytes of the file at a path. There are none where there is no file. -/
def content (t : FileTree) (path : String) : List UInt8 :=
  match t.entry path with
  | .ok (.file content) => content
  | _ => []

/-- What a log at a path starts with: the bytes there once the directories are made. -/
def logContent (t : FileTree) (path : String) : List UInt8 :=
  match t.makeParent path with
  | .ok u => u.content path
  | .error _ => []

/-- A log that is there, with its directories. -/
structure IsLog (t : FileTree) (path : String) (content : List UInt8) : Prop where
  parent : t.makeParent path = .ok t
  entry : t.entry path = .ok (.file content)

variable {t u v : FileTree} {path : String} {bs : List UInt8}

theorem IsLog.logContent_eq (h : IsLog t path bs) : t.logContent path = bs := by
  rw [logContent, h.parent]
  show t.content path = bs
  rw [content, h.entry]

theorem entry_of_file {place : List String} (hl : t.locate path = .ok place)
    (ha : asksDirectory path = false) (hf : t.find? place = some (.file bs)) :
    t.entry path = .ok (.file bs) := by
  simp [entry, hl, hf, ha, bind, Except.bind]

/-- Making directories leaves a file as it is. -/
theorem logContent_of_entry (hp : t.makeParent path = .ok u)
    (he : t.entry path = .ok (.file bs)) : t.logContent path = bs := by
  have hu : u.entry path = .ok (.file bs) := by
    unfold entry at he ⊢
    cases hl : t.locate path with
    | error e =>
      rw [hl] at he
      cases he
    | ok place =>
      rw [hl] at he
      rw [locate_keeps (extends_makeParent hp).keeps hl]
      simp only [bind, Except.bind] at he ⊢
      split at he
      · cases he
      next content hf => rwa [extends_makeParent hp place _ hf]
      · cases he
  rw [logContent, hp]
  show u.content path = bs
  rw [content, hu]

theorem isLog_set {place : List String} (hp : t.makeParent path = .ok u)
    (hw : u.writable path = .ok place) (content : List UInt8) :
    IsLog (u.set place (.file content)) path content := by
  obtain ⟨hparent, hwrite, hf⟩ := found_set hp hw content
  obtain ⟨hl, ha, -⟩ := of_writable hwrite
  exact ⟨hparent, entry_of_file hl ha hf⟩

theorem isLog_append (hp : t.makeParent path = .ok u) (h : u.append path bs = .ok v) :
    IsLog v path (t.logContent path ++ bs) := by
  have hstart : t.logContent path = u.content path := by
    rw [logContent, hp]
  unfold append at h
  cases hw : u.writable path with
  | error e =>
    rw [hw] at h
    cases h
  | ok place =>
    rw [hw] at h
    obtain ⟨hl, ha, hd⟩ := of_writable hw
    simp only [bind, Except.bind] at h
    split at h
    next old hf =>
      cases h
      have hold : u.content path = old := by
        rw [content, entry_of_file hl ha hf]
      rw [hstart, hold]
      exact isLog_set hp hw _
    next hne =>
      cases h
      -- what can be written and is no file is not there yet
      have hnone : u.find? place = none := by
        cases hf : u.find? place with
        | none => rfl
        | some e =>
          cases e with
          | file old => exact absurd hf (hne old)
          | directory => exact absurd hf hd
      have hempty : u.content path = [] := by
        simp [content, entry, hl, hnone, bind, Except.bind]
      rw [hstart, hempty]
      exact isLog_set hp hw _

end FileTree

/-! ## Events in a row -/

namespace SinkStore

open FileTree (IsLog EndsLine bytes text? lines)

variable {s : SinkStore} {path : String}

theorem of_track {e : Event} (h : ((Sink.log path).track e s).1 = .ok) :
    ∃ u v, s.files.makeParent path = .ok u ∧ u.append path (bytes (e.line ++ "\n")) = .ok v ∧
      ((Sink.log path).track e s).2 = { s with files := v } := by
  rw [Sink.track] at h ⊢
  split at h
  next s' ha => exact of_appendLine ha
  next => cases h

/-- An event that a log takes is added to what was there. -/
theorem isLog_track {e : Event} (h : ((Sink.log path).track e s).1 = .ok) :
    IsLog ((Sink.log path).track e s).2.files path
      (s.files.logContent path ++ bytes (e.line ++ "\n")) := by
  obtain ⟨u, v, hp, hv, hs⟩ := of_track h
  rw [hs]
  exact FileTree.isLog_append hp hv

/-- And so are several events. -/
theorem isLog_trackEach {es : List Event} (hne : es ≠ [])
    (h : ∀ t ∈ ((Sink.log path).trackEach es s).1, t = .ok) :
    IsLog ((Sink.log path).trackEach es s).2.files path
      (s.files.logContent path ++ bytes (logText es)) := by
  induction es generalizing s with
  | nil => exact absurd rfl hne
  | cons e rest ih =>
    rw [Sink.trackEach] at h ⊢
    obtain ⟨hfirst, hrest⟩ := List.forall_mem_cons.mp h
    have hlog := isLog_track hfirst
    rw [logText, FileTree.bytes_append, ← List.append_assoc]
    cases rest with
    | nil =>
      have hempty : bytes (logText []) = [] := by
        rw [logText, FileTree.bytes_eq]
        rfl
      rw [hempty, List.append_nil]
      exact hlog
    | cons next rest =>
      have hall := ih (List.cons_ne_nil _ _) hrest
      rw [hlog.logContent_eq] at hall
      exact hall

theorem logContent_trackEach {es : List Event}
    (h : ∀ t ∈ ((Sink.log path).trackEach es s).1, t = .ok) :
    ((Sink.log path).trackEach es s).2.files.logContent path =
      s.files.logContent path ++ bytes (logText es) := by
  by_cases hne : es = []
  · subst hne
    rw [logText, FileTree.bytes_eq]
    exact (List.append_nil _).symm
  · exact (isLog_trackEach hne h).logContent_eq

/-! ## Lines of a log -/

/-- The lines of events. -/
def texts (es : List Event) : List (List UInt8) :=
  es.map fun e => bytes e.line

theorem bytes_logText (es : List Event) : bytes (logText es) = (texts es).flatMap (· ++ [10]) := by
  induction es with
  | nil =>
    rw [logText, FileTree.bytes_eq]
    rfl
  | cons e es ih =>
    have hn : bytes "\n" = [10] := by
      rw [FileTree.bytes_eq]
      decide
    rw [logText, FileTree.bytes_append, FileTree.bytes_append, ih, hn]
    rfl

theorem newline_not_mem_texts (es : List Event) : ∀ l ∈ texts es, 10 ∉ l := by
  intro l hl
  obtain ⟨e, -, rfl⟩ := List.mem_map.mp hl
  exact FileTree.newline_not_mem_bytes (newline_not_mem_line e)

/-- The event that a line of a file stands for. -/
def eventOf? (line : List UInt8) : Option Event :=
  (text? line).bind Event.read?

theorem eventOf?_line {e : Event} (h : e.Readable) : eventOf? (bytes e.line) = some e := by
  rw [eventOf?, FileTree.text?_bytes, Option.bind_some, h.read?_line]

/-- A file that grew by the lines of events. -/
structure Grown (old new : List UInt8) (es : List Event) : Prop where
  content : new = old ++ bytes (logText es)
  apart : lines new = lines old ++ texts es ↔ es = [] ∨ EndsLine old
  glued : ¬EndsLine old → ∀ e rest, es = e :: rest → ∃ init last, last ≠ [] ∧
    lines old = init ++ [last] ∧ lines new = init ++ (last ++ bytes e.line) :: texts rest

theorem grown_append (old : List UInt8) (es : List Event) :
    Grown old (old ++ bytes (logText es)) es := by
  have hglued (hend : ¬EndsLine old) (e : Event) (rest : List Event) :
      ∃ init last, last ≠ [] ∧ lines old = init ++ [last] ∧
        lines (old ++ bytes (logText (e :: rest))) =
          init ++ (last ++ bytes e.line) :: texts rest := by
    obtain ⟨init, last, hne, hold, hnew⟩ := Text.exists_rows_append hend
    refine ⟨init, last, hne, hold, ?_⟩
    rw [bytes_logText]
    exact hnew _ _ (newline_not_mem_texts (e :: rest))
  refine ⟨rfl, ⟨fun h => ?_, fun h => ?_⟩, fun hend e rest hes => hes ▸ hglued hend e rest⟩
  · by_contra hnot
    rw [not_or] at hnot
    obtain ⟨e, rest, rfl⟩ := List.exists_cons_of_ne_nil hnot.1
    -- the first event is on no line of its own, so there is one line less
    obtain ⟨init, last, -, hold, hnew⟩ := hglued hnot.2 e rest
    have hlength := congrArg List.length (hnew.symm.trans h)
    simp [hold, texts] at hlength
  · rcases h with rfl | hend
    · rw [bytes_logText]
      simp [texts]
    · rw [bytes_logText, lines, Text.rows_append hend,
        Text.rows_flatMap (newline_not_mem_texts es), lines]

/-- **Lines of a log.** Events that a log takes are added to the bytes of its file, whatever these
are, each as its text and a break. The lines of the file are those it had and the texts of the
events if and only if no line was left without its end, or there are no events. From a line
without its end the first text goes on, while the other texts are lines of their own. Each text is
read as its event, where a reader has room for its details and takes its numbers as they are. -/
theorem lines_trackEach {es : List Event}
    (h : ∀ t ∈ ((Sink.log path).trackEach es s).1, t = .ok) :
    Grown (s.files.logContent path) (((Sink.log path).trackEach es s).2.files.logContent path) es ∧
      (es ≠ [] → (∀ bs, s.files.entry path = .ok (.file bs) → s.files.logContent path = bs) ∧
        ((Sink.log path).trackEach es s).2.files.entry path =
          .ok (.file (((Sink.log path).trackEach es s).2.files.logContent path))) ∧
      ∀ e ∈ es, e.Readable → eventOf? (bytes e.line) = some e := by
  refine ⟨?_, fun hne => ⟨fun bs hbs => ?_, ?_⟩, fun e _ he => eventOf?_line he⟩
  · rw [logContent_trackEach h]
    exact grown_append _ es
  · obtain ⟨e, rest, rfl⟩ := List.exists_cons_of_ne_nil hne
    obtain ⟨u, v, hp, -, -⟩ := of_track (h _ List.mem_cons_self)
    exact FileTree.logContent_of_entry hp hbs
  · have hlog := isLog_trackEach hne h
    rw [hlog.logContent_eq]
    exact hlog.entry

/-! Two events for a log that is finished and for one that is not. -/

def timed : Event :=
  ⟨.ofNat 1, .interception, "http_get",
    [("duration_ms", .number (.float (.ofRatio false 1234 100)))], [],
    ⟨⟨2026, 1, 31⟩, 23, 59, 60, 500000000⟩⟩

def named : Event :=
  ⟨.ofNat 2, .decision, "naïve\n", [], [("tags", .array [.string "a", .null])],
    ⟨⟨-1, 12, 31⟩, 0, 0, 0, 0⟩⟩

def logOf (text : String) : SinkStore :=
  .ofFiles (.ofList [("e.jsonl", some (bytes text))])

theorem readable_events : timed.Readable ∧ named.Readable := by
  refine ⟨⟨?_, ?_, ?_, ?_, ?_⟩, ⟨?_, ?_, ?_, ?_, ?_⟩⟩ <;> decide +kernel

theorem lines_finishedLog :
    (∀ t ∈ ((Sink.log "e.jsonl").trackEach [timed, named] (logOf "a\nb\n")).1, t = .ok) ∧
      (∀ t ∈ ((Sink.log "e.jsonl").trackEach [timed, named] (logOf "a\nb")).1, t = .ok) ∧
      lines (((Sink.log "e.jsonl").trackEach [timed, named] (logOf "a\nb\n")).2.files.logContent
        "e.jsonl") = [bytes "a", bytes "b", bytes timed.line, bytes named.line] ∧
      lines (((Sink.log "e.jsonl").trackEach [timed, named] (logOf "a\nb")).2.files.logContent
        "e.jsonl") = [bytes "a", bytes "b" ++ bytes timed.line, bytes named.line] ∧
      eventOf? (bytes timed.line) = some timed ∧ eventOf? (bytes named.line) = some named := by
  have hfinished :
      ∀ t ∈ ((Sink.log "e.jsonl").trackEach [timed, named] (logOf "a\nb\n")).1, t = .ok := by
    decide +kernel
  have hunfinished :
      ∀ t ∈ ((Sink.log "e.jsonl").trackEach [timed, named] (logOf "a\nb")).1, t = .ok := by
    decide +kernel
  have hends : EndsLine ((logOf "a\nb\n").files.logContent "e.jsonl") := by
    decide +kernel
  have hnot : ¬EndsLine ((logOf "a\nb").files.logContent "e.jsonl") := by
    decide +kernel
  have hlines : lines ((logOf "a\nb\n").files.logContent "e.jsonl") =
      [bytes "a"] ++ [bytes "b"] := by
    decide +kernel
  have hold : lines ((logOf "a\nb").files.logContent "e.jsonl") = [bytes "a"] ++ [bytes "b"] := by
    decide +kernel
  obtain ⟨hgrown, -, hread⟩ := lines_trackEach hfinished
  obtain ⟨hglued, -, -⟩ := lines_trackEach hunfinished
  obtain ⟨init, last, -, hinit, hnew⟩ := hglued.glued hnot timed [named] rfl
  obtain ⟨rfl, hlast⟩ := List.append_inj' (hold.symm.trans hinit) rfl
  obtain rfl := List.singleton_inj.mp hlast
  refine ⟨hfinished, hunfinished, ?_, hnew, hread timed (by simp) readable_events.1,
    hread named (by simp) readable_events.2⟩
  rw [hgrown.apart.mpr (.inr hends), hlines]
  rfl

/-- Not every log has its events on lines of their own. -/
theorem lines_unfinishedLog :
    ¬ ∀ (path : String) (es : List Event) (s : SinkStore),
      (∀ t ∈ ((Sink.log path).trackEach es s).1, t = .ok) →
        lines (((Sink.log path).trackEach es s).2.files.logContent path) =
          lines (s.files.logContent path) ++ texts es := by
  intro h
  have hlines := h "e.jsonl" [timed] (logOf "x") (by decide +kernel)
  have hlength : (lines (((Sink.log "e.jsonl").trackEach [timed] (logOf "x")).2.files.logContent
      "e.jsonl")).length = 1 := by
    decide +kernel
  rw [hlines] at hlength
  exact absurd hlength (by decide +kernel)

end SinkStore

end PolicyGuard
