import PolicyGuard.Proofs.ClosingBrace
import PolicyGuard.Proofs.Precedence
import PolicyGuard.Proofs.Record

/-!
Attributes of components by name.

A component has the attributes of its own scalars, under the names that its record gives them.
Policy text gives the name of a field in lower case. So a field without capitals is governed by a
rule that names it, and a field with capitals by none: such a rule is about the field with the
name in lower case.

* `get?_scalars`, `get?_subject`: which attributes a component has;
* `read_forbidEquals`, `appliesTo_ruleEquals`: a forbid that compares an attribute with a text;
* `run_byName`: the gate with one forbid that names a field.
-/

namespace PolicyGuard

/-- A name before all names of a table is not in it. -/
theorem Table.get?_of_lt {α : Type} {t : Table α} {name : String} (h : ∀ p ∈ t, name < p.1) :
    Table.get? name t = none := by
  induction t with
  | nil => rfl
  | cons p rest ih =>
    obtain ⟨hp, hrest⟩ := List.forall_mem_cons.mp h
    have hne : name ≠ p.1 := fun he => String.lt_irrefl _ (he ▸ hp)
    rw [Table.get?, if_neg hne, ih hrest]

namespace Policy

/-! ## Attributes of a record -/

namespace Subject

/-- The scalar that a record has under a name. -/
def own? (record : List (String × Json)) (name : String) : Option Value :=
  (Table.get? name record).bind Value.ofJson?

/-- One step of `scalars`. -/
def addScalar (s : Subject) (m : String × Json) : Subject :=
  match Value.ofJson? m.2 with
  | some v => s.put m.1 v
  | none => s

theorem get?_addScalar (s : Subject) (m : String × Json) (name : String) :
    (addScalar s m).get? name =
      if name = m.1 then (Value.ofJson? m.2).or (s.get? name) else s.get? name := by
  unfold addScalar
  cases Value.ofJson? m.2 with
  | none => simp
  | some v => simp [Table.get?_put]

theorem get?_foldl_addScalar {record : Table Json} (hr : Table.Sorted record) (s : Subject)
    (name : String) :
    (record.foldl addScalar s).get? name = (own? record name).or (s.get? name) := by
  induction record generalizing s with
  | nil => rfl
  | cons m rest ih =>
    obtain ⟨hm, hrest⟩ := List.pairwise_cons.mp hr
    rw [List.foldl_cons, ih hrest, get?_addScalar, own?, own?, Table.get?]
    by_cases h : name = m.1
    · subst h
      rw [if_pos rfl, if_pos rfl, Table.get?_of_lt hm]
      rfl
    · rw [if_neg h, if_neg h]

theorem get?_scalars {record : Table Json} (hr : Table.Sorted record) (name : String) :
    (scalars record).get? name = own? record name := by
  have hs : scalars record = record.foldl addScalar [] := rfl
  rw [hs, get?_foldl_addScalar hr]
  exact Option.or_none

/-- One step of `fill`. -/
def fillScalar (s : Subject) (m : String × Json) : Subject :=
  if s.has m.1 then s else addScalar s m

theorem get?_fillScalar (s : Subject) (m : String × Json) (name : String) :
    (fillScalar s m).get? name =
      if name = m.1 then (s.get? name).or (Value.ofJson? m.2) else s.get? name := by
  unfold fillScalar Table.has
  by_cases hn : name = m.1
  · subst hn
    cases hs : s.get? m.1 with
    | some v => simp [hs]
    | none => simp [hs, get?_addScalar]
  · cases s.get? m.1 with
    | some v => simp [hn]
    | none => simp [hn, get?_addScalar]

/-- Another record does not replace what is there. -/
theorem get?_fill {s : Subject} {name : String} {v : Value} (h : s.get? name = some v)
    (members : List (String × Json)) : (fill s members).get? name = some v := by
  induction members generalizing s with
  | nil => exact h
  | cons m rest ih =>
    have hstep : (fillScalar s m).get? name = some v := by
      rw [get?_fillScalar, h]
      split <;> rfl
    exact ih hstep

theorem get?_withType (s : Subject) (name : String) :
    (withType s).get? name =
      if name = "type" then (s.get? "type").or (s.get? "component_type") else s.get? name := by
  unfold withType Table.has
  cases ht : s.get? "type" with
  | some v =>
    by_cases hn : name = "type" <;> simp [hn, ht]
  | none =>
    cases hc : s.get? "component_type" with
    | some v => by_cases hn : name = "type" <;> simp [hn, Table.get?_put]
    | none => by_cases hn : name = "type" <;> simp [hn, ht]

end Subject

/-! ## A forbid on one attribute -/

/-- The policy that forbids an attribute of `owner`, by its name, to be a text. -/
def forbidEquals (owner field : Word) (v : String) : String :=
  printStatement .forbid none
    [owner.text ++ "." ++ Rule.condition ⟨.forbid, "*", field.text, .equals, .text v, ""⟩]

/-- The rule of this policy: its field is in lower case. -/
def ruleEquals (owner field : Word) (v : String) : Rule :=
  ⟨.forbid, "*", Text.lowerAscii field.text, .equals, .text v, forbidEquals owner field v⟩

theorem read_forbidEquals (owner field : Word) {v : String} (hq : '"' ∉ v.toList)
    (hb : '}' ∉ v.toList) : read (forbidEquals owner field v) = [ruleEquals owner field v] := by
  refine read_written .forbid field .equals hq owner hb ?_
  have hp := Statement.toList_printStatement .forbid none
    [owner.text ++ "." ++ Rule.condition ⟨.forbid, "*", field.text, .equals, .text v, ""⟩]
  rw [List.map_singleton, Clause.toList_conditionOf, List.intercalate_singleton] at hp
  exact hp

/-- An attribute says what a text says: severities by their rank, all else up to case. -/
def Agrees (field : String) (a : Value) (v : String) : Prop :=
  if field = "severity" then severityRank a.asText = severityRank v
  else Text.lower a.asText = Text.lower v

theorem agrees_of_ne {field : String} (hf : field ≠ "severity") {a : Value} {v : String} :
    Agrees field a v ↔ Text.lower a.asText = Text.lower v := by
  rw [Agrees, if_neg hf]

theorem accepts_ruleEquals (owner field : Word) (v : String) (a : Value) :
    (ruleEquals owner field v).accepts a = true ↔ Agrees (Text.lowerAscii field.text) a v := by
  by_cases hf : Text.lowerAscii field.text = "severity"
  · simp [Rule.accepts, ruleEquals, Agrees, hf, Operator.holds, Value.asText]
  · simp [Rule.accepts, ruleEquals, Agrees, hf, Operator.holdsOfText, String.toList_inj]

theorem appliesTo_ruleEquals (owner field : Word) (v : String) (s : Subject) :
    (ruleEquals owner field v).appliesTo s = true ↔
      ∃ a, s.get? (Text.lowerAscii field.text) = some a ∧
        Agrees (Text.lowerAscii field.text) a v := by
  simp only [Rule.appliesTo, Option.any_eq_true, accepts_ruleEquals]
  rfl

end Policy

namespace Gate

open Policy

/-! ## Attributes of a component -/

/-- The attribute that a component has under a name. `type` stands for `component_type`. -/
def attribute? (record : Component) (name : String) : Option Value :=
  if name = "type" then (Subject.own? record "type").or (Subject.own? record "component_type")
  else Subject.own? record name

theorem subject_none (record : Component) :
    subject none record = Subject.withType (Subject.scalars record) := by
  unfold subject
  cases (record.get? "name").bind Json.string? <;> rfl

theorem get?_subject (record : Record) (name : String) :
    (subject none record.fields).get? name = attribute? record.fields name := by
  simp only [subject_none, Subject.get?_withType, Subject.get?_scalars record.sorted, attribute?]

/-- Whatever the entities are, the fields of a component are its own. -/
theorem get?_subject_of_own (record : Record) {name : String} {v : Value}
    (h : Subject.own? record.fields name = some v) (entities : Option Entities) :
    (subject entities record.fields).get? name = some v := by
  have hs : (Subject.scalars record.fields).get? name = some v := by
    rw [Subject.get?_scalars record.sorted, h]
  have ht {s : Subject} (hs : s.get? name = some v) : (Subject.withType s).get? name = some v := by
    rw [Subject.get?_withType]
    split
    next hn =>
      subst hn
      rw [hs, Option.some_or]
    next => exact hs
  obtain ⟨entity, he⟩ : ∃ entity,
      subject entities record.fields = Subject.ofResource record.fields entity := ⟨_, rfl⟩
  rw [he]
  cases entity with
  | none => exact ht hs
  | some attrs => exact ht (Subject.get?_fill hs attrs)

/-! ## One forbid, one component -/

/-- What the gate says about one component under one forbid. -/
theorem run_single {r : Rule} (hr : r.effect = .forbid) (c : Component)
    (entities : Option Entities) :
    run [r] [c] entities none =
      if r.appliesTo (subject entities c) then .failed [violation c (subject entities c) r]
      else .passed 1 1 := by
  cases h : r.appliesTo (subject entities c) <;>
    simp [run, evaluate, componentViolations, violations, Rule.forbids, hr, h]

/-- The policy that forbids a field of components, by its name, to be a text. -/
def forbidByName (k : Word) (v : String) : String :=
  forbidEquals Clause.resource k v

/-- **Governed by name.** A forbid on the name of a field and its text fails a component with that
field, if the name has no capitals and is not `severity`. Whatever the name is, the forbid fails a
component exactly if the field with the name in lower case says what the text says. -/
theorem run_byName (record : Record) (k : Word) {v : String} (hq : '"' ∉ v.toList)
    (hb : '}' ∉ v.toList) :
    (Text.lowerAscii k.text = k.text → k.text ≠ "severity" →
      record.fields.get? k.text = some (.string v) →
        ∀ entities, ∃ x,
          run (read (forbidByName k v)) [record.fields] entities none = .failed [x] ∧
            x.rule.field = k.text ∧ x.actualValue = v) ∧
    ((∃ vs, run (read (forbidByName k v)) [record.fields] none none = .failed vs) ↔
      ∃ a, attribute? record.fields (Text.lowerAscii k.text) = some a ∧
        Agrees (Text.lowerAscii k.text) a v) := by
  rw [forbidByName, read_forbidEquals Clause.resource k hq hb]
  constructor
  · intro hlow hne hfield entities
    have hown : (subject entities record.fields).get? k.text = some (.text v) := by
      apply get?_subject_of_own record
      rw [Subject.own?, hfield]
      rfl
    have hf : (ruleEquals Clause.resource k v).field = k.text := hlow
    have happ :
        (ruleEquals Clause.resource k v).appliesTo (subject entities record.fields) = true := by
      rw [appliesTo_ruleEquals, hlow]
      exact ⟨.text v, hown, (agrees_of_ne hne).mpr rfl⟩
    refine ⟨_, (run_single rfl record.fields entities).trans (if_pos happ), hf, ?_⟩
    show textOr (subject entities record.fields) (ruleEquals Clause.resource k v).field "N/A" = v
    rw [textOr, hf, hown]
    rfl
  · have happ := appliesTo_ruleEquals Clause.resource k v (subject none record.fields)
    rw [get?_subject record] at happ
    rw [run_single rfl record.fields none]
    refine Iff.trans ?_ happ
    cases (ruleEquals Clause.resource k v).appliesTo (subject none record.fields) <;> simp

/-- A field whose name has a capital. -/
def riskScore : Word :=
  ⟨"riskScore", by decide, by decide⟩

def provider : Word :=
  ⟨"provider", by decide, by decide⟩

/-- A component with fields that differ in capitals only. -/
def mixedRecord : Record where
  fields := [("provider", .string "Deep // Seek"), ("riskScore", .string "high"),
    ("riskscore", .string "Low")]
  sorted := by decide +kernel

theorem run_mixedRecord :
    '"' ∉ "Deep // Seek".toList ∧ '}' ∉ "Deep // Seek".toList ∧
      (∃ x, run (read (forbidByName provider "Deep // Seek")) [mixedRecord.fields] none none =
        .failed [x] ∧ x.rule.field = "provider" ∧ x.actualValue = "Deep // Seek") ∧
      (∃ vs, run (read (forbidByName riskScore "low")) [mixedRecord.fields] none none =
        .failed vs) ∧
      ¬ ∃ vs, run (read (forbidByName riskScore "high")) [mixedRecord.fields] none none =
        .failed vs := by
  have hq : '"' ∉ "Deep // Seek".toList := by
    decide
  have hb : '}' ∉ "Deep // Seek".toList := by
    decide
  have hlow := (run_byName mixedRecord riskScore (v := "low") (by decide) (by decide)).2
  have hhigh := (run_byName mixedRecord riskScore (v := "high") (by decide) (by decide)).2
  have hne : Text.lowerAscii riskScore.text ≠ "severity" := by
    decide +kernel
  have he :
      attribute? mixedRecord.fields (Text.lowerAscii riskScore.text) = some (.text "Low") := by
    decide +kernel
  refine ⟨hq, hb, ?_, hlow.mpr ⟨_, he, (agrees_of_ne hne).mpr (by decide +kernel)⟩, ?_⟩
  · exact (run_byName mixedRecord provider hq hb).1 (by decide +kernel) (by decide) rfl none
  · rw [hhigh]
    rintro ⟨a, ha, hl⟩
    obtain rfl := Option.some.inj (he.symm.trans ha)
    exact absurd ((agrees_of_ne hne).mp hl) (by decide +kernel)

def capitalRecord : Record :=
  ⟨[("riskScore", .string "high")], by decide⟩

/-- Not every field can be governed by its own name: one with a capital is passed over. -/
theorem run_riskScore :
    ¬ ∀ (record : Record) (k : Word) (v : String), k.text ≠ "severity" →
      '"' ∉ v.toList → '}' ∉ v.toList → record.fields.get? k.text = some (.string v) →
        ∃ vs, run (read (forbidByName k v)) [record.fields] none none = .failed vs := by
  intro h
  have hp : run (read (forbidByName riskScore "high")) [capitalRecord.fields] none none =
      .passed 1 1 := by
    decide +kernel
  obtain ⟨vs, hf⟩ := h capitalRecord riskScore "high" (by decide) (by decide) (by decide) rfl
  rw [hp] at hf
  cases hf

end Gate

end PolicyGuard
