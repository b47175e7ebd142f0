import Mathlib.Data.List.Nodup
import PolicyGuard.Event.Sink

/-!
Events that are handed to several sinks.

A dispatcher hands an event to each of its sinks, whatever became of it at those before. In a tree
of dispatchers a memory sink so gets each event once for every path to it, and a sink that fails
takes nothing from the others.

* `mem_pathsTo`, `nodup_pathsTo`: the paths to a memory sink;
* `FanOut.events_track`, `track_withoutFailing`: one event in a tree;
* `fanOut_trackEach`: several events.
-/

namespace PolicyGuard

namespace Sink

/-! ## Paths -/

/-- The sink at a path, whose parts are places in dispatchers. -/
def at? (sink : Sink) : List Nat → Option Sink
  | [] => some sink
  | i :: path =>
    match sink with
    | dispatcher inner => inner[i]?.bind fun next => next.at? path
    | _ => none

mutual

/-- The paths to a memory sink. It may stand in several places. -/
def pathsTo (name : String) : Sink → List (List Nat)
  | memory other => if other = name then [[]] else []
  | dispatcher inner => pathsFrom name 0 inner
  | _ => []

/-- The paths whose first part is a place in these sinks, counted from `i`. -/
def pathsFrom (name : String) (i : Nat) : List Sink → List (List Nat)
  | [] => []
  | sink :: rest => (pathsTo name sink).map (i :: ·) ++ pathsFrom name (i + 1) rest

end

/-- The first part of a path is a place, and the others are a path from the sink that is there. -/
theorem mem_pathsFrom {name : String} {inner : List Sink} {i : Nat} {path : List Nat} :
    path ∈ pathsFrom name i inner ↔
      ∃ k sink rest, inner[k]? = some sink ∧ rest ∈ sink.pathsTo name ∧ path = (i + k) :: rest := by
  induction inner generalizing i with
  | nil => simp [pathsFrom]
  | cons sink inner ih =>
    rw [pathsFrom, List.mem_append, List.mem_map, ih]
    constructor
    · rintro (⟨rest, hrest, rfl⟩ | ⟨k, next, rest, hk, hrest, rfl⟩)
      · exact ⟨0, sink, rest, rfl, hrest, rfl⟩
      · exact ⟨k + 1, next, rest, hk, hrest, by rw [Nat.add_right_comm, Nat.add_assoc]⟩
    · rintro ⟨k, next, rest, hk, hrest, rfl⟩
      cases k with
      | zero =>
        obtain rfl := Option.some.inj hk
        exact .inl ⟨rest, hrest, rfl⟩
      | succ k => exact .inr ⟨k, next, rest, hk, hrest, by rw [Nat.add_right_comm, Nat.add_assoc]⟩

theorem mem_pathsTo {name : String} {path : List Nat} {sink : Sink} :
    path ∈ sink.pathsTo name ↔ sink.at? path = some (.memory name) := by
  induction path generalizing sink with
  | nil =>
    cases sink with
    | memory other => simp [pathsTo, at?]
    | dispatcher inner => simp [pathsTo, at?, mem_pathsFrom]
    | _ => simp [pathsTo, at?]
  | cons i path ih =>
    cases sink with
    | memory other => by_cases h : other = name <;> simp [pathsTo, at?, h]
    | dispatcher inner =>
      rw [pathsTo, mem_pathsFrom, at?, Option.bind_eq_some_iff]
      constructor
      · rintro ⟨k, sink, rest, hk, hrest, h⟩
        obtain ⟨rfl, rfl⟩ := List.cons.inj h
        exact ⟨sink, by rwa [Nat.zero_add], ih.mp hrest⟩
      · rintro ⟨sink, hi, hat⟩
        exact ⟨i, sink, path, hi, ih.mpr hat, by rw [Nat.zero_add]⟩
    | _ => simp [pathsTo, at?]

mutual

theorem nodup_pathsTo (name : String) : (sink : Sink) → (sink.pathsTo name).Nodup
  | .memory other => by
    rw [pathsTo]
    split
    · exact List.nodup_singleton _
    · exact List.nodup_nil
  | .dispatcher inner => by
    rw [pathsTo]
    exact nodup_pathsFrom name 0 inner
  | .log _ => List.nodup_nil
  | .failing => List.nodup_nil
  | .panicking => List.nodup_nil
  | .queued _ _ => List.nodup_nil

theorem nodup_pathsFrom (name : String) (i : Nat) : (inner : List Sink) →
    (pathsFrom name i inner).Nodup
  | [] => List.nodup_nil
  | sink :: inner => by
    rw [pathsFrom, List.nodup_append]
    refine ⟨List.Nodup.map List.cons_injective (nodup_pathsTo name sink),
      nodup_pathsFrom name (i + 1) inner, fun path hp other ho => ?_⟩
    -- a path into the first sink starts with a smaller place
    obtain ⟨rest, -, rfl⟩ := List.mem_map.mp hp
    obtain ⟨k, next, more, -, -, rfl⟩ := mem_pathsFrom.mp ho
    intro heq
    have := (List.cons.inj heq).1
    omega

end

/-! ## One event in a tree -/

/-- Trees of dispatchers with memory sinks and failing sinks at their ends. -/
inductive FanOut : Sink → Prop where
  | memory (name : String) : FanOut (memory name)
  | failing : FanOut failing
  | dispatcher {inner : List Sink} (h : ∀ sink ∈ inner, FanOut sink) : FanOut (dispatcher inner)

variable {inner : List Sink} {e : Event} {s : SinkStore}

/-- An event goes to each of several sinks, one after another. -/
theorem trackAll_eq (h : ∀ sink ∈ inner, ∀ s, (sink.track e s).1 ≠ .panicked) (s : SinkStore) :
    trackAll inner e s = (.ok, inner.foldl (fun s sink => (sink.track e s).2) s) := by
  induction inner generalizing s with
  | nil => rfl
  | cons sink inner ih =>
    rw [List.forall_mem_cons] at h
    rw [trackAll, List.foldl_cons, ← ih h.2]
    split
    next s' ht => exact absurd (congrArg Prod.fst ht) (h.1 s)
    next s' ht => rw [ht]

theorem FanOut.not_panicked {sink : Sink} (h : sink.FanOut) (e : Event) (s : SinkStore) :
    (sink.track e s).1 ≠ .panicked := by
  induction h generalizing s with
  | memory name => simp [track]
  | failing => simp [track]
  | dispatcher h ih =>
    rw [track, trackAll_eq fun sink hs => ih sink hs]
    simp

theorem track_dispatcher (h : ∀ sink ∈ inner, sink.FanOut) (e : Event) (s : SinkStore) :
    (dispatcher inner).track e s =
      (.ok, inner.foldl (fun s sink => (sink.track e s).2) s) := by
  rw [track, trackAll_eq fun sink hs => (h sink hs).not_panicked e]

theorem events_remember (s : SinkStore) (name other : String) (e : Event) :
    (s.remember name e).events other =
      s.events other ++ if name = other then [e] else [] := by
  by_cases h : name = other
  · subst h
    simp [SinkStore.events, SinkStore.remember, Table.get?_put]
  · simp [SinkStore.events, SinkStore.remember, Table.get?_put, h, Ne.symm h]

/-- What several sinks give to a memory sink is what each of them gives. -/
theorem events_foldl {name : String} (h : ∀ sink ∈ inner, ∀ s, (sink.track e s).2.events name =
    s.events name ++ List.replicate (sink.pathsTo name).length e) (i : Nat) (s : SinkStore) :
    (inner.foldl (fun s sink => (sink.track e s).2) s).events name =
      s.events name ++ List.replicate (pathsFrom name i inner).length e := by
  induction inner generalizing i s with
  | nil => exact (List.append_nil _).symm
  | cons sink inner ih =>
    rw [List.forall_mem_cons] at h
    rw [List.foldl_cons, ih h.2 (i + 1), h.1 s, pathsFrom, List.length_append, List.length_map,
      List.append_assoc, List.replicate_append_replicate]

/-- A memory sink gets an event once for each path to it. -/
theorem FanOut.events_track {sink : Sink} (h : sink.FanOut) (e : Event) (s : SinkStore)
    (name : String) : (sink.track e s).2.events name =
      s.events name ++ List.replicate (sink.pathsTo name).length e := by
  induction h generalizing s with
  | memory other =>
    rw [track, events_remember, pathsTo]
    split <;> rfl
  | failing => exact (List.append_nil _).symm
  | dispatcher h ih =>
    rw [track_dispatcher h, pathsTo]
    exact events_foldl ih 0 s

/-! ## Without the sinks that fail -/

def isFailing : Sink → Bool
  | failing => true
  | _ => false

mutual

/-- A tree without its failing sinks. -/
def withoutFailing : Sink → Sink
  | dispatcher inner => dispatcher (removeFailing inner)
  | sink => sink

def removeFailing : List Sink → List Sink
  | [] => []
  | sink :: rest =>
    if sink.isFailing then removeFailing rest else sink.withoutFailing :: removeFailing rest

end

theorem track_of_isFailing {sink : Sink} (h : sink.isFailing = true) (e : Event) (s : SinkStore) :
    sink.track e s = (.failed .closed, s) := by
  cases sink with
  | failing => rfl
  | _ => cases h

mutual

/-- Sinks that fail take nothing from the others. -/
theorem track_withoutFailing : (sink : Sink) → (e : Event) → (s : SinkStore) →
    sink.withoutFailing.track e s = sink.track e s
  | .memory _, _, _ => rfl
  | .log _, _, _ => rfl
  | .failing, _, _ => rfl
  | .panicking, _, _ => rfl
  | .queued _ _, _, _ => rfl
  | .dispatcher inner, e, s => by
    rw [withoutFailing, track, track, trackAll_removeFailing inner e s]

theorem trackAll_removeFailing : (inner : List Sink) → (e : Event) → (s : SinkStore) →
    trackAll (removeFailing inner) e s = trackAll inner e s
  | [], _, _ => rfl
  | sink :: rest, e, s => by
    rw [removeFailing]
    split
    next hf => rw [trackAll, track_of_isFailing hf, trackAll_removeFailing rest]
    next =>
      rw [trackAll, trackAll, track_withoutFailing sink]
      split
      · rfl
      · exact trackAll_removeFailing rest e _

end

theorem exists_of_mem_removeFailing {sink : Sink} (h : sink ∈ removeFailing inner) :
    ∃ old : Sink, ¬old.isFailing = true ∧ sink = old.withoutFailing := by
  induction inner with
  | nil => cases h
  | cons old inner ih =>
    rw [removeFailing] at h
    split at h
    next => exact ih h
    next hf =>
      rcases List.mem_cons.mp h with rfl | h
      · exact ⟨old, hf, rfl⟩
      · exact ih h

/-- None of them is left below another sink. -/
theorem at?_withoutFailing {sink : Sink} (h : ¬sink.isFailing = true) (path : List Nat) :
    sink.withoutFailing.at? path ≠ some .failing := by
  induction path generalizing sink with
  | nil =>
    cases sink with
    | failing => exact absurd rfl h
    | _ => simp [withoutFailing, at?]
  | cons i path ih =>
    cases sink with
    | dispatcher inner =>
      rw [withoutFailing, at?]
      intro hat
      obtain ⟨next, hnext, hat⟩ := Option.bind_eq_some_iff.mp hat
      obtain ⟨old, hold, rfl⟩ := exists_of_mem_removeFailing (List.mem_of_getElem? hnext)
      exact ih hold hat
    | _ => simp [withoutFailing, at?]

/-! ## Several events -/

theorem trackEach_congr {sink other : Sink} (h : ∀ e s, sink.track e s = other.track e s)
    (es : List Event) (s : SinkStore) : sink.trackEach es s = other.trackEach es s := by
  induction es generalizing s with
  | nil => rfl
  | cons e es ih =>
    rw [trackEach, trackEach, h, funext ih]

theorem trackEach_ok {sink : Sink} (h : ∀ e s, (sink.track e s).1 = .ok) (es : List Event)
    (s : SinkStore) : (sink.trackEach es s).1 = es.map fun _ => .ok := by
  induction es generalizing s with
  | nil => rfl
  | cons e es ih =>
    rw [trackEach]
    exact congrArg₂ List.cons (h e s) (ih _)

theorem FanOut.events_trackEach {sink : Sink} (h : sink.FanOut) (es : List Event) (s : SinkStore)
    (name : String) : (sink.trackEach es s).2.events name =
      s.events name ++ es.flatMap fun e => List.replicate (sink.pathsTo name).length e := by
  induction es generalizing s with
  | nil => exact (List.append_nil _).symm
  | cons e es ih =>
    rw [trackEach, List.flatMap_cons, ← List.append_assoc, ← h.events_track]
    exact ih _

/-- **Fan-out.** In a tree of dispatchers with memory sinks and failing sinks at its ends every
event is taken at the root. Each memory sink keeps what it held, and then has every event, in
order and once for each path to it from the root. The same answers are given, and the same is
held, without the failing sinks. -/
theorem fanOut_trackEach (h : (dispatcher inner).FanOut) (es : List Event) (s : SinkStore) :
    ((dispatcher inner).trackEach es s).1 = (es.map fun _ => .ok) ∧
      (∀ name, ((dispatcher inner).pathsTo name).Nodup ∧
        (∀ path, path ∈ (dispatcher inner).pathsTo name ↔
          (dispatcher inner).at? path = some (.memory name)) ∧
        ((dispatcher inner).trackEach es s).2.events name = s.events name ++
          es.flatMap fun e => List.replicate ((dispatcher inner).pathsTo name).length e) ∧
      (dispatcher inner).withoutFailing.trackEach es s = (dispatcher inner).trackEach es s ∧
      ∀ path, (dispatcher inner).withoutFailing.at? path ≠ some .failing := by
  have hinner : ∀ sink ∈ inner, sink.FanOut := by
    cases h with
    | dispatcher h => exact h
  refine ⟨trackEach_ok (fun e s => by rw [track_dispatcher hinner]) es s,
    fun name => ⟨nodup_pathsTo name _, fun path => mem_pathsTo, h.events_trackEach es s name⟩,
    trackEach_congr (track_withoutFailing _) es s, at?_withoutFailing (by simp [isFailing])⟩

/-! A tree in which one part stands twice, with failing sinks before and after others. -/

def sharedPart : Sink :=
  dispatcher [failing, memory "audit"]

def sharedTree : List Sink :=
  [failing, sharedPart, memory "console", dispatcher [memory "audit", failing, sharedPart]]

def firstEvent : Event :=
  ⟨.ofNat 1, .decision, "first", [], [], ⟨⟨2026, 1, 31⟩, 0, 0, 0, 0⟩⟩

def secondEvent : Event :=
  ⟨.ofNat 2, .decision, "second", [], [], ⟨⟨2026, 1, 31⟩, 0, 0, 1, 0⟩⟩

theorem fanOut_sharedTree : (dispatcher sharedTree).FanOut := by
  have hpart : sharedPart.FanOut :=
    .dispatcher (List.forall_mem_cons.mpr ⟨.failing, List.forall_mem_singleton.mpr (.memory _)⟩)
  have hlast : (dispatcher [memory "audit", failing, sharedPart]).FanOut :=
    .dispatcher (List.forall_mem_cons.mpr ⟨.memory _,
      List.forall_mem_cons.mpr ⟨.failing, List.forall_mem_singleton.mpr hpart⟩⟩)
  exact .dispatcher (List.forall_mem_cons.mpr ⟨.failing, List.forall_mem_cons.mpr ⟨hpart,
    List.forall_mem_cons.mpr ⟨.memory _, List.forall_mem_singleton.mpr hlast⟩⟩⟩)

theorem trackEach_sharedTree :
    (dispatcher sharedTree).FanOut ∧
      (dispatcher sharedTree).pathsTo "audit" = [[1, 1], [3, 0], [3, 2, 1]] ∧
      ((dispatcher sharedTree).trackEach [firstEvent, secondEvent]
        ((SinkStore.ofFiles .empty).remember "audit" secondEvent)).2.events "audit" =
          [secondEvent, firstEvent, firstEvent, firstEvent, secondEvent, secondEvent,
            secondEvent] ∧
      (dispatcher sharedTree).withoutFailing =
        dispatcher [dispatcher [memory "audit"], memory "console",
          dispatcher [memory "audit", dispatcher [memory "audit"]]] := by
  have hpaths : (dispatcher sharedTree).pathsTo "audit" = [[1, 1], [3, 0], [3, 2, 1]] := by
    decide
  obtain ⟨-, hevents, -, -⟩ := fanOut_trackEach fanOut_sharedTree [firstEvent, secondEvent]
    ((SinkStore.ofFiles .empty).remember "audit" secondEvent)
  obtain ⟨-, -, haudit⟩ := hevents "audit"
  rw [hpaths, events_remember, if_pos rfl] at haudit
  exact ⟨fanOut_sharedTree, hpaths, haudit, rfl⟩

end Sink

end PolicyGuard
