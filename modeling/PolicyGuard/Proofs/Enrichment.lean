import PolicyGuard.Proofs.Attribute
import PolicyGuard.Proofs.Places
import PolicyGuard.Proofs.Threshold

/-!
Components together with their entities.

The last entity with the name of a component as its id fills what the record of the component
leaves open, and only then `type` stands for `component_type`. What a record says itself stays as
it is, so that entities add violations and hide none.

* `get?_ofJson`, `id?_eq_some_iff`: which entity belongs to a component;
* `get?_enriched`: the attributes of a component that has entities;
* `reported_enriched`: violations with and without entities.
-/

namespace PolicyGuard

namespace Policy.Subject

/-! ## Attributes of two records -/

/-- A second record gives what is not there yet. -/
theorem get?_fill_or {members : Table Json} (hm : Table.Sorted members) (s : Subject)
    (name : String) : (fill s members).get? name = (s.get? name).or (own? members name) := by
  have hf : fill s members = members.foldl fillScalar s := rfl
  rw [hf]
  clear hf
  induction members generalizing s with
  | nil => exact Option.or_none.symm
  | cons m rest ih =>
    obtain ⟨hlt, hrest⟩ := List.pairwise_cons.mp hm
    rw [List.foldl_cons, ih hrest, get?_fillScalar, own?, own?, Table.get?]
    by_cases h : name = m.1
    · subst h
      rw [if_pos rfl, if_pos rfl, Table.get?_of_lt hlt]
      exact Option.or_none
    · rw [if_neg h, if_neg h]

/-- What a record says under a name, or else a second record. -/
def either? (record : List (String × Json)) (entity : Option (List (String × Json)))
    (name : String) : Option Value :=
  (own? record name).or (entity.bind fun attrs => own? attrs name)

theorem get?_ofResource {record : Table Json} (hr : Table.Sorted record)
    {entity : Option (Table Json)} (he : ∀ attrs ∈ entity, Table.Sorted attrs) (name : String) :
    (ofResource record entity).get? name =
      if name = "type" then
        (either? record entity "type").or (either? record entity "component_type")
      else either? record entity name := by
  obtain ⟨s, hs, hget⟩ : ∃ s, ofResource record entity = withType s ∧
      ∀ k, s.get? k = either? record entity k := by
    cases entity with
    | none =>
      refine ⟨scalars record, rfl, fun k => ?_⟩
      rw [get?_scalars hr]
      exact Option.or_none.symm
    | some attrs =>
      refine ⟨fill (scalars record) attrs, rfl, fun k => ?_⟩
      rw [get?_fill_or (he attrs rfl), get?_scalars hr]
      rfl
  rw [hs, get?_withType, hget, hget, hget]

end Policy.Subject

namespace Gate

open Policy

namespace Entities

/-! ## Entities by id -/

/-- How an id is spelled: in a record, as a text, or as the text of another scalar or an array.
A record without a text in it, and `null`, spell none. -/
inductive Spelled : Json → String → Prop
  | record {members : List (String × Json)} {id : String}
      (h : Table.get? "id" members = some (.string id)) : Spelled (.object members) id
  | text (id : String) : Spelled (.string id) id
  | number (n : Json.Number) : Spelled (.number n) (Json.number n).compact
  | bool (b : Bool) : Spelled (.bool b) (Json.bool b).compact
  | array (items : List Json) : Spelled (.array items) (Json.array items).compact

theorem id?_eq_some_iff (e : Json) (id : String) :
    id? e = some id ↔ (∃ uid, e.get? "uid" = some uid ∧ Spelled uid id) ∧ id ≠ "" := by
  unfold id?
  rw [Option.filter_eq_some_iff, decide_eq_true_eq]
  refine and_congr_left fun _ => ?_
  cases e.get? "uid" with
  | none => simp
  | some uid =>
    simp only [Option.some.injEq, exists_eq_left']
    constructor
    · intro h
      cases uid with
      | null => cases h
      | bool b =>
        cases h
        exact .bool b
      | number n =>
        cases h
        exact .number n
      | string s =>
        cases h
        exact .text id
      | array items =>
        cases h
        exact .array items
      | object members =>
        obtain ⟨j, hj, hs⟩ := Option.bind_eq_some_iff.mp h
        cases j with
        | string s =>
          cases hs
          exact .record hj
        | _ => cases hs
    · intro h
      cases h with
      | record h => exact Option.bind_eq_some_iff.mpr ⟨_, h, rfl⟩
      | _ => rfl

theorem ofJson_eq (doc : Json) :
    ofJson doc = Table.ofList ((listed doc).filterMap fun e => (id? e).map fun id =>
      (id, attributes e)) := by
  unfold ofJson listed
  cases doc.get? "entities" with
  | none => rfl
  | some j => cases j <;> rfl

/-- Of entities with the same id the last one counts. -/
theorem get?_ofJson (doc : Json) (name : String) :
    (ofJson doc).get? name =
      ((listed doc).findRev? fun e => id? e = some name).map attributes := by
  have hname (e : Json) :
      ((id? e).map fun id => (id, attributes e)).any (fun p => decide (p.1 = name)) =
        decide (id? e = some name) := by
    cases id? e <;> simp
  rw [ofJson_eq, Table.get?_ofList, List.findRev?_eq_find?_reverse, ← List.filterMap_reverse,
    List.find?_filterMap, List.findRev?_eq_find?_reverse]
  simp only [hname]
  cases he : (listed doc).reverse.find? fun e => id? e = some name with
  | none => rfl
  | some e =>
    have hid := List.find?_some he
    rw [decide_eq_true_eq] at hid
    simp [hid]

end Entities

/-! ## Components with entities -/

section

-- a reading of ids, a document of entities, and a component
variable (id? : Json → Option String) (doc : Json) (record : Component)

/-- The entity of a component: the last one with the name of the component as its id. There is
none where the name is no text. -/
def entity? : Option Json :=
  ((record.get? "name").bind Json.string?).bind fun name =>
    (Entities.listed doc).findRev? fun e => id? e = some name

/-- What a component says under a name, or else its entity. -/
def field? (name : String) : Option Value :=
  (Subject.own? record name).or
    ((entity? id? doc record).bind fun e => Subject.own? (Entities.attributes e) name)

/-- What rules see under a name. `type` stands for `component_type`. -/
def view? (name : String) : Option Value :=
  if name = "type" then
    (field? id? doc record "type").or (field? id? doc record "component_type")
  else field? id? doc record name

end

theorem mem_of_entity? {id? : Json → Option String} {doc e : Json} {record : Component}
    (h : entity? id? doc record = some e) : e ∈ Entities.listed doc := by
  obtain ⟨name, -, h⟩ := Option.bind_eq_some_iff.mp h
  rw [List.findRev?_eq_find?_reverse] at h
  exact List.mem_reverse.mp (List.mem_of_find?_eq_some h)

theorem subject_ofJson (doc : Json) (record : Component) :
    subject (some (Entities.ofJson doc)) record =
      Subject.ofResource record ((entity? Entities.id? doc record).map Entities.attributes) := by
  unfold subject entity?
  cases (record.get? "name").bind Json.string? with
  | none => rfl
  | some name =>
    rw [Option.bind_some, ← Entities.get?_ofJson]
    rfl

theorem either?_entity (doc : Json) (record : Component) (name : String) :
    Subject.either? record ((entity? Entities.id? doc record).map Entities.attributes) name =
      field? Entities.id? doc record name := by
  unfold Subject.either? field?
  rw [Option.bind_map]
  rfl

theorem get?_view (doc : Entities.Document) (record : Record) (name : String) :
    (subject (some (Entities.ofJson doc.json)) record.fields).get? name =
      view? Entities.id? doc.json record.fields name := by
  have he : ∀ attrs ∈ (entity? Entities.id? doc.json record.fields).map Entities.attributes,
      Table.Sorted attrs := by
    intro attrs ha
    obtain ⟨e, he, rfl⟩ := Option.map_eq_some_iff.mp ha
    exact doc.sorted e (mem_of_entity? he)
  rw [subject_ofJson, Subject.get?_ofResource record.sorted he]
  simp only [either?_entity]
  rfl

/-- **What rules see of a component.** Under each name it is the scalar of the record; else the
scalar of the last entity with the name of the component as its id; else, for `type`, what these
two say for `component_type`; else nothing. An id is a text, or the text in a record, or the text
of a number, a boolean or an array, and is not empty. A component whose name is no text has
no entity. -/
theorem get?_enriched (doc : Entities.Document) (record : Record) (name : String) :
    (subject (some (Entities.ofJson doc.json)) record.fields).get? name =
      view? Entities.id? doc.json record.fields name ∧
    (∀ e id, Entities.id? e = some id ↔
      (∃ uid, e.get? "uid" = some uid ∧ Entities.Spelled uid id) ∧ id ≠ "") ∧
    ((∀ s, record.fields.get? "name" ≠ some (.string s)) →
      ∀ entities, subject entities record.fields = subject none record.fields) := by
  refine ⟨get?_view doc record name, Entities.id?_eq_some_iff, ?_⟩
  intro hs entities
  have hn : (record.fields.get? "name").bind Json.string? = none := by
    cases hj : record.fields.get? "name" with
    | none => rfl
    | some j =>
      cases j with
      | string s => exact absurd hj (hs s)
      | _ => rfl
  unfold subject
  rw [hn]
  rfl

/-! A scan with one component, and two entities for it, in two spellings of its name. -/

def someScan : String :=
  "[\x7b\"name\":\"gpt-4\",\"provider\":null,\"risk_score\":3\x7d]"

def someEntities : String :=
  "\x7b\"entities\":[\x7b\"uid\":\"gpt-4\",\"attrs\":\x7b\"provider\":\"DeepSeek\"\x7d\x7d," ++
    "\x7b\"uid\":\x7b\"id\":\"gpt-4\"\x7d,\"attrs\":\x7b\"provider\":\"OpenAI\"," ++
      "\"risk_score\":9,\"component_type\":\"llm-api\"\x7d\x7d]\x7d"

/-- A component whose name is no text. -/
def unnamed : Record :=
  ⟨[("name", .ofNat 7)], by decide⟩

theorem get?_someEntities :
    ∃ (doc : Entities.Document) (scan : Json) (c : Record),
      Json.read? someEntities = some doc.json ∧ Json.read? someScan = some scan ∧
      c.fields ∈ components scan ∧
      (subject (some (Entities.ofJson doc.json)) c.fields).get? "provider" =
        some (.text "OpenAI") ∧
      (subject (some (Entities.ofJson doc.json)) c.fields).get? "risk_score" =
        some (.number (.ofInt 3)) ∧
      (subject (some (Entities.ofJson doc.json)) c.fields).get? "type" =
        some (.text "llm-api") ∧
      (∀ s, unnamed.fields.get? "name" ≠ some (.string s)) ∧
      subject (some (Entities.ofJson doc.json)) unnamed.fields =
        subject none unnamed.fields := by
  have hany : (Json.read? someEntities).any fun doc => (Json.read? someScan).any fun scan =>
      (components scan).any fun c =>
        view? Entities.id? doc c "provider" = some (.text "OpenAI") &&
          view? Entities.id? doc c "risk_score" = some (.number (.ofInt 3)) &&
          view? Entities.id? doc c "type" = some (.text "llm-api") := by
    decide +kernel
  obtain ⟨doc, hdoc, hany⟩ := (Option.any_eq_true _ _).mp hany
  obtain ⟨scan, hscan, hany⟩ := (Option.any_eq_true _ _).mp hany
  obtain ⟨c, hc, hany⟩ := List.any_eq_true.mp hany
  simp only [Bool.and_eq_true, decide_eq_true_eq] at hany
  obtain ⟨⟨hprovider, hrisk⟩, htype⟩ := hany
  let entities : Entities.Document := .ofRead (Json.wasRead_of_read? hdoc)
  let record : Record := ⟨c, sorted_components (Json.wasRead_of_read? hscan) c hc⟩
  have hunnamed : ∀ s, unnamed.fields.get? "name" ≠ some (.string s) := by
    rintro s ⟨⟩
  exact ⟨entities, scan, record, hdoc, hscan, hc,
    (get?_enriched entities record _).1.trans hprovider,
    (get?_enriched entities record _).1.trans hrisk,
    (get?_enriched entities record _).1.trans htype, hunnamed,
    (get?_enriched entities unnamed "name").2.2 hunnamed _⟩

/-- The reading of ids that takes a record without an id for its text. -/
def textId? (e : Json) : Option String :=
  let id := match e.get? "uid" with
    | some (.object uid) =>
      ((Table.get? "id" uid).bind Json.string?).or (some (Json.object uid).compact)
    | some (.string s) => some s
    | some .null => none
    | some other => some other.compact
    | none => none
  id.filter (· ≠ "")

def unspelledEntities : Entities.Document where
  json := .object [("entities", .array [.object [
    ("attrs", .object [("provider", .string "DeepSeek")]),
    ("uid", .object [("type", .string "Component")])]])]
  sorted := by
    intro e he
    obtain rfl := List.mem_singleton.mp he
    exact List.pairwise_singleton _ _

def textNamed : Record :=
  ⟨[("name", .string "\x7b\"type\":\"Component\"\x7d")], by decide⟩

/-- Not every value but `null` spells an id: a record without one is passed over. -/
theorem get?_unspelledEntities :
    ¬ ∀ (doc : Entities.Document) (record : Record) (name : String),
      (subject (some (Entities.ofJson doc.json)) record.fields).get? name =
        view? textId? doc.json record.fields name := by
  intro h
  exact absurd (h unspelledEntities textNamed "provider") (by decide +kernel)

/-! ## Violations with entities -/

/-- A subject with all that another one has, except under `type`. -/
def Keeps (s t : Subject) : Prop :=
  ∀ name v, name ≠ "type" → s.get? name = some v → t.get? name = some v

theorem keeps_subject (store : Entities) (c : Component) :
    Keeps (subject none c) (subject (some store) c) := by
  intro name v hn hv
  rw [subject_none, Subject.get?_withType, if_neg hn] at hv
  obtain ⟨entity, he⟩ : ∃ entity, subject (some store) c = Subject.ofResource c entity := ⟨_, rfl⟩
  rw [he]
  cases entity with
  | none => exact (Subject.get?_withType _ _).trans ((if_neg hn).trans hv)
  | some attrs =>
    exact (Subject.get?_withType _ _).trans ((if_neg hn).trans (Subject.get?_fill hv attrs))

section

variable {s t : Subject} (h : Keeps s t)

include h

/-- Also a rule that asks for a difference applies only where there is a value. -/
theorem Keeps.forbids {r : Rule} (hf : r.field ≠ "type") (hs : r.forbids s = true) :
    r.forbids t = true := by
  rw [Rule.forbids, Bool.and_eq_true] at hs ⊢
  obtain ⟨he, ha⟩ := hs
  obtain ⟨a, hget, hacc⟩ := exists_of_appliesTo ha
  exact ⟨he, (Option.any_eq_true _ _).mpr ⟨a, h _ _ hf hget, hacc⟩⟩

/-- A component without severity ranks lowest. -/
theorem Keeps.severity_le (c : Component) (r : Rule) :
    severityRank (violation c s r).severity ≤ severityRank (violation c t r).severity := by
  show severityRank (Text.lower (textOr s "severity" "")) ≤
    severityRank (Text.lower (textOr t "severity" ""))
  cases hs : s.get? "severity" with
  | none =>
    have hzero : severityRank (Text.lower (textOr s "severity" "")) = 0 := by
      rw [textOr, hs]
      decide +kernel
    rw [hzero]
    exact Nat.zero_le _
  | some v =>
    have ht := h "severity" v (by decide) hs
    refine Nat.le_of_eq ?_
    rw [textOr, textOr, hs, ht]

theorem Keeps.reaches {c : Component} {r : Rule} {rank : Nat}
    (hs : (violation c s r).reaches rank = true) : (violation c t r).reaches rank = true :=
  decide_eq_true (Nat.le_trans (of_decide_eq_true hs) (h.severity_le c r))

end

/-- The violations that a threshold leaves, with their places. -/
def reported (rules : List Rule) (cs : List Component) (entities : Option Entities)
    (threshold : Option String) : List (Place × Violation) :=
  (located rules cs entities).filter fun x => x.2.reaches (thresholdRank threshold)

theorem map_snd_reported (rules : List Rule) (cs : List Component) (entities : Option Entities)
    (threshold : Option String) :
    (reported rules cs entities threshold).map Prod.snd =
      kept (evaluate rules cs entities) threshold := by
  rw [kept_eq, ← map_snd_located, List.filter_map]
  rfl

/-- **Entities hide no violation.** Except under rules about `type`, whatever is reported without
entities is reported with them, at the same place and in the same order, and so is what a threshold
leaves. -/
theorem reported_enriched (rules : List Rule) (cs : List Component) (store : Entities)
    (threshold : Option String) :
    (∀ entities, (reported rules cs entities threshold).map Prod.snd =
      kept (evaluate rules cs entities) threshold) ∧
    (∀ entities, ∀ x ∈ reported rules cs entities threshold,
      ReportedAt rules cs entities x.1 x.2) ∧
    (pairs ((reported rules cs none threshold).filter fun x => x.2.rule.field ≠ "type")).Sublist
      (pairs (reported rules cs (some store) threshold)) := by
  refine ⟨fun entities => map_snd_reported rules cs entities threshold, ?_, ?_⟩
  · intro entities x hx
    exact reportedAt_of_mem (List.mem_filter.mp hx).1
  · unfold reported
    rw [List.filter_filter]
    refine pairs_sublist (p := fun v =>
      decide (v.rule.field ≠ "type") && v.reaches (thresholdRank threshold)) ?_ rules cs
    intro c r hf hp
    obtain ⟨hn, hr⟩ := (Bool.and_eq_true _ _).mp hp
    have hk := keeps_subject store c
    exact ⟨hk.forbids (of_decide_eq_true hn) hf, hk.reaches hr⟩

end Gate

end PolicyGuard
