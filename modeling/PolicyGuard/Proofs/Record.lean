import PolicyGuard.Gate.Run
import PolicyGuard.Proofs.JsonValue

/-!
Records as they are read.

What is read from a file has the members of each object in order, each name once. A component
that is taken from a scan, or made from a result of a run, is such a record (`Record`), and so are
the attributes in a document of entities (`Entities.Document`).

* `map_fields_records`: the components of a scan that was read;
* `exists_document_of_load`: the entities of a file.
-/

namespace PolicyGuard.Gate

theorem wasRead_of_readJson {files : FileTree} {path : String} {j : Json}
    (h : readJson files path = .ok j) : j.WasRead := by
  unfold readJson at h
  split at h
  next =>
    split at h
    next => cases h
    next text _ =>
      split at h
      next j' hj =>
        cases h
        exact Json.wasRead_of_read? hj
      next => cases h
  next => cases h

/-! ## Components of a scan -/

/-- A component with its fields in order. -/
structure Record where
  fields : Component
  sorted : Table.Sorted fields

theorem sorted_withPlace (result : Json) {c : Component} (h : Table.Sorted c) :
    Table.Sorted (withPlace result c) := by
  unfold withPlace
  split
  next =>
    split
    next => exact Table.sorted_put (Table.sorted_put h)
    next => exact h
  next => exact h

theorem sorted_of_mem_ofRun {run : Json} {c : Component} (h : c ∈ ofRun run) :
    Table.Sorted c := by
  unfold ofRun at h
  split at h
  next results hr =>
    obtain ⟨result, -, rfl⟩ := List.mem_map.mp h
    exact sorted_withPlace result (Table.sorted_ofList _)
  next => exact absurd h List.not_mem_nil

theorem sorted_of_mem_objects {items : List Json} (hi : ∀ j ∈ items, j.WasRead) {c : Component}
    (h : c ∈ objects items) : Table.Sorted c := by
  obtain ⟨j, hj, hc⟩ := List.mem_filterMap.mp h
  cases j with
  | object members =>
    cases hc
    exact (hi _ hj).ordered.1
  | _ => cases hc

/-- The components of a scan that was read have their fields in order. -/
theorem sorted_components {scan : Json} (h : scan.WasRead) :
    ∀ c ∈ components scan, Table.Sorted c := by
  intro c hc
  cases scan with
  | array items => exact sorted_of_mem_objects h.ordered hc
  | object members =>
    unfold components at hc
    dsimp only at hc
    split at hc
    next items hi => exact sorted_of_mem_objects (h.get? hi).ordered hc
    next runs _ hr =>
      obtain ⟨run, -, hc⟩ := List.mem_flatMap.mp hc
      exact sorted_of_mem_ofRun hc
    next =>
      split at hc
      next =>
        obtain rfl := List.mem_singleton.mp hc
        exact h.ordered.1
      next => exact absurd hc List.not_mem_nil
  | _ => exact absurd hc List.not_mem_nil

/-- The components of a scan that was read, as records. -/
def records {scan : Json} (h : scan.WasRead) : List Record :=
  (components scan).pmap Record.mk (sorted_components h)

theorem map_fields_records {scan : Json} (h : scan.WasRead) :
    (records h).map Record.fields = components scan := by
  have hfields : (records h).map Record.fields =
      (components scan).pmap (fun c _ => c) (sorted_components h) := List.map_pmap ..
  rw [hfields, List.pmap_eq_map, List.map_id']

/-! ## Entities -/

namespace Entities

/-- The entities of a document, in order. -/
def listed (doc : Json) : List Json :=
  match doc.get? "entities" with
  | some (.array items) => items
  | _ => []

theorem sorted_attributes {doc : Json} (h : doc.WasRead) :
    ∀ e ∈ listed doc, Table.Sorted (attributes e) := by
  intro e he
  have hread : e.WasRead := by
    unfold listed at he
    split at he
    next items hi => exact (h.get? hi).ordered e he
    next => exact absurd he List.not_mem_nil
  unfold attributes
  split
  next members hm => exact (hread.get? hm).ordered.1
  next => exact List.Pairwise.nil

/-- A document of entities with the attributes of each in order. -/
structure Document where
  json : Json
  sorted : ∀ e ∈ listed json, Table.Sorted (attributes e)

def Document.ofRead {doc : Json} (h : doc.WasRead) : Document :=
  ⟨doc, sorted_attributes h⟩

/-- Entities that are loaded from a file come from a document. -/
theorem exists_document_of_load {files : FileTree} {path : String} {store : Entities}
    (h : load files path = .ok store) : ∃ doc : Document, store = ofJson doc.json := by
  unfold load at h
  cases hr : readJson files path with
  | error e =>
    rw [hr] at h
    cases h
  | ok j =>
    rw [hr] at h
    cases h
    exact ⟨.ofRead (wasRead_of_readJson hr), rfl⟩

end Entities

end PolicyGuard.Gate
