import PolicyGuard.Event.Sink
import PolicyGuard.Proofs.Files
import PolicyGuard.Proofs.Lines

/-!
Log files: one event on each line.

The text of an event has no control character (`printable_chars`), so it stands on one line,
and the lines of a log are those of the events that were added to it.

* `lines_of_logged`: the lines of a log;
* `logged_track`, `logged_fill`: a log after one event and after several;
* `logged_queued_fill`: the same with a queue before it whose worker is prompt.
-/

namespace PolicyGuard

/-! ## The text of a value -/

namespace Json

/-- There are no control characters in a text. -/
def Printable (cs : List Char) : Prop :=
  ∀ c ∈ cs, 0x20 ≤ c.toNat

instance (cs : List Char) : Decidable (Printable cs) :=
  List.decidableBAll (fun c : Char => 0x20 ≤ c.toNat) cs

theorem Printable.append {cs ds : List Char} (hc : Printable cs) (hd : Printable ds) :
    Printable (cs ++ ds) := by
  intro c h
  rcases List.mem_append.mp h with h | h
  · exact hc c h
  · exact hd c h

theorem Printable.cons {c : Char} {cs : List Char} (hc : 0x20 ≤ c.toNat) (hs : Printable cs) :
    Printable (c :: cs) := by
  intro d h
  rcases List.mem_cons.mp h with rfl | h
  · exact hc
  · exact hs d h

theorem Printable.subset {cs ds : List Char} (h : Printable ds) (hs : cs ⊆ ds) : Printable cs :=
  fun c hc => h c (hs hc)

theorem printable_digitsOf (n : Nat) : Printable (Binary64.digitsOf n) := by
  intro c hc
  have hd := Nat.isDigit_of_mem_toDigits (by decide) (by decide) hc
  simp [Char.isDigit, UInt32.le_iff_toNat_le] at hd
  omega

theorem printable_replicate (n : Nat) : Printable (List.replicate n '0') := by
  intro c hc
  rw [List.eq_of_mem_replicate hc]
  decide

theorem printable_positional (m : Nat) (e : Int) : Printable (Binary64.positional m e) := by
  have hd := printable_digitsOf m
  unfold Binary64.positional
  simp only
  split
  · exact hd.append (printable_replicate _)
  · split
    · exact (hd.subset (List.take_subset _ _)).append
        (.cons (by decide) (hd.subset (List.drop_subset _ _)))
    · exact .cons (by decide) (.cons (by decide) ((printable_replicate _).append hd))

theorem printable_scientificDigits {ds : List Char} (h : Printable ds) :
    Printable (Binary64.scientificDigits ds) := by
  unfold Binary64.scientificDigits
  split
  · exact h
  · exact h
  · exact .cons (h _ (List.mem_cons_self ..))
      (.cons (by decide) (h.subset (List.subset_cons_self _ _)))

theorem printable_withPoint (m : Nat) (e : Int) : Printable (Binary64.withPoint m e) := by
  unfold Binary64.withPoint
  simp only
  split
  · refine (printable_positional m e).append ?_
    split <;> decide
  · refine (printable_scientificDigits (printable_digitsOf m)).append (.cons (by decide) ?_)
    refine .cons ?_ (printable_digitsOf _)
    split <;> decide

theorem printable_floatText (x : Binary64) : Printable (floatText x) := by
  unfold floatText
  split
  · rename_i negative steps
    refine .append ?_ (printable_withPoint _ _)
    cases negative <;> decide
  · decide

theorem printable_text (n : Number) : Printable n.text := by
  cases n with
  | whole i =>
    show Printable (intText i)
    unfold intText
    split
    · exact .cons (by decide) (printable_digitsOf _)
    · exact printable_digitsOf _
  | float x => exact printable_floatText x

theorem printable_hexDigit : ∀ n < 16, 0x20 ≤ (Text.hexDigit n).toNat := by
  decide

theorem printable_escaped (c : Char) : Printable (escaped c) := by
  unfold escaped
  repeat' split
  any_goals decide
  · have hh := printable_hexDigit (c.toNat / 16) (by omega)
    have hl := printable_hexDigit (c.toNat % 16) (by omega)
    exact .cons (by decide) (.cons (by decide) (.cons (by decide) (.cons (by decide)
      (.cons hh (.cons hl (by decide))))))
  · rename_i hc
    intro d hd
    obtain rfl := List.mem_singleton.mp hd
    omega

theorem printable_quoted (s : String) : Printable (quoted s) := by
  refine .cons (by decide) (.append ?_ (by decide))
  intro c hc
  obtain ⟨d, -, hc⟩ := List.mem_flatMap.mp hc
  exact printable_escaped d c hc

mutual

theorem printable_chars : (j : Json) → Printable j.chars
  | .null => by decide
  | .bool true => by decide
  | .bool false => by decide
  | .number n => printable_text n
  | .string s => printable_quoted s
  | .array [] => by decide
  | .array (item :: rest) =>
    .cons (by decide) ((printable_chars item).append (printable_itemChars rest))
  | .object [] => by decide
  | .object ((name, value) :: rest) =>
    .cons (by decide) ((printable_quoted name).append (.cons (by decide)
      ((printable_chars value).append (printable_memberChars rest))))

theorem printable_itemChars : (items : List Json) → Printable (itemChars items)
  | [] => by decide
  | item :: rest => .cons (by decide) ((printable_chars item).append (printable_itemChars rest))

theorem printable_memberChars : (members : List (String × Json)) → Printable (memberChars members)
  | [] => by decide
  | (name, value) :: rest =>
    .cons (by decide) ((printable_quoted name).append (.cons (by decide)
      ((printable_chars value).append (printable_memberChars rest))))

end

end Json

/-! ## A log -/

namespace FileTree

/-- The lines of a file. One that cannot be read has none. -/
def logLines (t : FileTree) (path : String) : List String :=
  match t.readText path with
  | .ok text => (Text.lines text.toList).map String.ofList
  | .error _ => []

end FileTree

namespace SinkStore

/-- The text of a log. -/
def logText : List Event → String
  | [] => ""
  | e :: es => e.line ++ "\n" ++ logText es

/-- These events were added to a log that did not exist. -/
def Logged (files : FileTree) (path : String) (es : List Event) : Prop :=
  (es = [] ∧ files.CanCreate path) ∨ files.Holds path (logText es)

theorem logText_concat (es : List Event) (e : Event) :
    logText (es ++ [e]) = logText es ++ (e.line ++ "\n") := by
  induction es with
  | nil => simp [logText]
  | cons e' es ih =>
    rw [List.cons_append, logText, ih, logText]
    simp only [String.append_assoc]

theorem toList_logText (es : List Event) :
    (logText es).toList = (es.map fun e => e.line.toList).flatMap (· ++ ['\n']) := by
  induction es with
  | nil => rfl
  | cons e es ih =>
    rw [logText, String.toList_append, String.toList_append, ih]
    rfl

theorem newline_not_mem_line (e : Event) : '\n' ∉ e.line.toList := by
  intro h
  rw [Event.line, Json.compact, String.toList_ofList] at h
  exact absurd (Json.printable_chars e.json '\n' h) (by decide)

theorem lines_of_logged {files : FileTree} {path : String} {es : List Event}
    (h : Logged files path es) : files.logLines path = es.map Event.line := by
  rcases h with ⟨rfl, hc⟩ | hh
  · rw [FileTree.logLines]
    split
    · rename_i text ht
      exact absurd ht (FileTree.not_readable_of_canCreate hc text)
    · rfl
  · have hn : ∀ l ∈ es.map fun e => e.line.toList, '\n' ∉ l := by
      intro l hl
      obtain ⟨e, -, rfl⟩ := List.mem_map.mp hl
      exact newline_not_mem_line e
    have hl := Text.lines_flatMap hn
    rw [← toList_logText] at hl
    rw [FileTree.logLines, FileTree.readText_of_holds hh]
    show (Text.lines (logText es).toList).map String.ofList = _
    rw [hl, List.map_map]
    exact List.map_congr_left fun e _ => String.ofList_toList

/-- A line is added once the directories are made that the file lies in. -/
theorem appendLine_eq_bind (s : SinkStore) (path : String) (e : Event) :
    s.appendLine path e =
      ((s.files.makeParent path).mapError (SinkError.io ((FileTree.parent? path).getD ""))).bind
        fun u => ((u.append path (FileTree.bytes (e.line ++ "\n"))).mapError
          (SinkError.io path)).bind fun v => .ok { s with files := v } := by
  unfold appendLine FileTree.makeParent
  cases FileTree.parent? path <;> rfl

theorem appendLine_eq (s : SinkStore) (path : String) (e : Event) {u v : FileTree}
    (hp : s.files.makeParent path = .ok u)
    (ha : u.append path (FileTree.bytes (e.line ++ "\n")) = .ok v) :
    s.appendLine path e = .ok { s with files := v } := by
  rw [appendLine_eq_bind, hp]
  show ((u.append path _).mapError _).bind _ = _
  rw [ha]
  rfl

/-- No line is added otherwise. -/
theorem of_appendLine {s s' : SinkStore} {path : String} {e : Event}
    (h : s.appendLine path e = .ok s') : ∃ u v, s.files.makeParent path = .ok u ∧
      u.append path (FileTree.bytes (e.line ++ "\n")) = .ok v ∧ s' = { s with files := v } := by
  cases hp : s.files.makeParent path with
  | error cause =>
    rw [appendLine_eq_bind, hp] at h
    cases h
  | ok u =>
    cases ha : u.append path (FileTree.bytes (e.line ++ "\n")) with
    | error cause =>
      rw [appendLine_eq_bind, hp] at h
      replace h : ((u.append path _).mapError _).bind _ = .ok s' := h
      rw [ha] at h
      cases h
    | ok v =>
      rw [appendLine_eq s path e hp ha] at h
      exact ⟨u, v, rfl, ha, (Except.ok.inj h).symm⟩

theorem logged_appendLine {s : SinkStore} {path : String} {es : List Event}
    (h : Logged s.files path es) (e : Event) :
    ∃ files, s.appendLine path e = .ok { s with files } ∧ Logged files path (es ++ [e]) := by
  rcases h with ⟨rfl, hc⟩ | hh
  · obtain ⟨u, v, hp, ha, hv⟩ := FileTree.holds_create hc (e.line ++ "\n")
    refine ⟨v, appendLine_eq s path e hp ha, .inr ?_⟩
    simpa [logText] using hv
  · obtain ⟨v, ha, hv⟩ := FileTree.holds_append hh (e.line ++ "\n")
    refine ⟨v, appendLine_eq s path e hh.1 ha, .inr ?_⟩
    rwa [logText_concat]

theorem logged_track {s : SinkStore} {path : String} {es : List Event}
    (h : Logged s.files path es) (e : Event) :
    ∃ files, (Sink.log path).track e s = (.ok, { s with files }) ∧
      Logged files path (es ++ [e]) := by
  obtain ⟨files, ha, hl⟩ := logged_appendLine h e
  exact ⟨files, by rw [Sink.track, ha], hl⟩

theorem logged_fill {s : SinkStore} {path : String} {es : List Event}
    (h : Logged s.files path es) (es' : List Event) :
    Logged (es'.foldl (fun s e => ((Sink.log path).track e s).2) s).files path (es ++ es') := by
  induction es' generalizing s es with
  | nil => simpa using h
  | cons e rest ih =>
    obtain ⟨files, ht, hl⟩ := logged_track h e
    have hr := ih (s := { s with files }) hl
    rw [List.append_assoc] at hr
    rw [List.foldl_cons, ht]
    exact hr

/-- A log does not panic. -/
theorem log_not_panicked (path : String) (e : Event) (s : SinkStore) :
    ((Sink.log path).track e s).1 ≠ .panicked := by
  rw [Sink.track]
  split <;> simp

/-! ## A queue before a log -/

/-- A queue that its worker has worked off, and that takes more. -/
def Idle (s : SinkStore) (name : String) : Prop :=
  (s.queue name).isOpen = true ∧ (s.queue name).isAlive = true ∧ (s.queue name).pending = []

theorem queue_setQueue (s : SinkStore) (name : String) (q : Queue Event) :
    (s.setQueue name q).queue name = q := by
  simp [queue, setQueue, Table.get?_put]

theorem idle_ofFiles (files : FileTree) (name : String) : (ofFiles files).Idle name :=
  ⟨rfl, rfl, rfl⟩

/-- A queue that is worked off hands an event on at once. -/
theorem sendTo?_idle {s : SinkStore} {name : String} (hi : s.Idle name)
    (deliver : Event → SinkStore → Tracked × SinkStore) (e : Event) :
    ∃ q q', q'.isOpen = true ∧ q'.isAlive = true ∧ q'.pending = [] ∧
      s.sendTo? deliver name (.event e) =
        some (match deliver e ((s.setQueue name q).setQueue name q') with
          | (.panicked, s) => s.setQueue name (s.queue name).breakDown
          | (_, s) => s) := by
  obtain ⟨ho, ha, hp⟩ := hi
  let q : Queue Event := { s.queue name with
    pending := [.event e]
    accepted := (s.queue name).accepted ++ [e] }
  let q' : Queue Event := { q with pending := [], handed := q.handed ++ [e] }
  have hs : (s.queue name).send? (.event e) = some q := by
    simp [Queue.send?, ho, ha, hp, q]
  have hw : q.work = q' := by
    simp [Queue.work, ha, q, q']
  refine ⟨q, q', ho, ha, rfl, ?_⟩
  rw [sendTo?, hs]
  show some (workOff deliver name [.event e] (s.setQueue name q)) = _
  rw [workOff, queue_setQueue, hw]
  generalize deliver e ((s.setQueue name q).setQueue name q') = told
  obtain ⟨tracked, s'⟩ := told
  cases tracked <;> rfl

theorem logged_queued {s : SinkStore} {name path : String} {es : List Event} (hi : s.Idle name)
    (h : Logged s.files path es) (e : Event) :
    ∃ s', (Sink.queued name (.log path)).track e s = (.ok, s') ∧ s'.Idle name ∧
      Logged s'.files path (es ++ [e]) := by
  obtain ⟨q, q', ho, ha, hp, hs⟩ := sendTo?_idle hi (fun e s => (Sink.log path).track e s) e
  obtain ⟨files, ht, hl⟩ := logged_track (s := (s.setQueue name q).setQueue name q') h e
  rw [ht] at hs
  refine ⟨_, by rw [Sink.track, hs], ?_, hl⟩
  have hq : SinkStore.queue { (s.setQueue name q).setQueue name q' with files } name = q' :=
    queue_setQueue _ name q'
  rw [Idle, hq]
  exact ⟨ho, ha, hp⟩

theorem logged_queued_fill {s : SinkStore} {name path : String} {es : List Event}
    (hi : s.Idle name) (h : Logged s.files path es) (es' : List Event) :
    Logged (es'.foldl (fun s e => ((Sink.queued name (.log path)).track e s).2) s).files path
      (es ++ es') := by
  induction es' generalizing s es with
  | nil => simpa using h
  | cons e rest ih =>
    obtain ⟨s', ht, hi', hl⟩ := logged_queued hi h e
    have hr := ih hi' hl
    rw [List.append_assoc] at hr
    rw [List.foldl_cons, ht]
    exact hr

end SinkStore

end PolicyGuard
