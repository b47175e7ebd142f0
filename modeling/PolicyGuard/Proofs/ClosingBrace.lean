import PolicyGuard.Proofs.RoundTrip

/-!
Closing braces in values.

The body of a statement ends at the first closing brace, in quotes or not, so no rule has a
value with one in it. A condition with such a value is cut off in its value: its rule is lost.

* `not_mem_value_of_read`: what no value of a rule holds, whatever text the rule is read from;
* `read_printRule`: which values keep their rule.
-/

namespace PolicyGuard.Policy

/-- No rule has a quote or a closing brace in a text that it holds against an attribute. -/
theorem not_mem_value_of_read {text : String} {r : Rule} (hr : r ∈ read text) {s : String}
    (hs : r.value = .text s) : '"' ∉ s.toList ∧ '}' ∉ s.toList := by
  obtain ⟨statement, hm, hr⟩ := List.mem_flatMap.mp hr
  obtain ⟨clause, hc, hr⟩ := List.mem_filterMap.mp hr
  obtain ⟨_, -, rfl⟩ := Option.map_eq_some_iff.mp hr
  obtain ⟨_, cs, _, -, hf⟩ := Text.exists_of_mem_findFrom hm
  obtain ⟨-, _, hh, -⟩ := Statement.exists_of_read? hf
  obtain ⟨ds, rest, hd, hv⟩ := Clause.exists_value?_of_mem_all hc
  have hs : clause.value = .text s := hs
  rw [hs] at hv
  obtain ⟨hq, hsub⟩ := Clause.text_of_value? hv
  exact ⟨hq, fun hb => Statement.not_mem_body hh (hd.subset (hsub hb))⟩

theorem Clause.all_conditionWith (owner field : Word) (op : Operator) {value : List Char}
    {v : Value} (hv : value? (value ++ [' ']) = some (v, [' '])) :
    all (' ' :: (conditionWith owner field.text op value ++ [' '])) =
      [⟨Text.lowerAscii field.text, op.token, v⟩] := by
  have hb : Text.isWord ' ' = false := by
    decide
  have hr (before : Option Char) (rest : List Char) :
      Text.findFrom read? 0 before (' ' :: rest) = Text.findFrom read? 0 (some ' ') rest := by
    rw [Text.findFrom, read?_of_not_isWord hb]
  have hn : conditionWith owner field.text op value ≠ [] :=
    List.append_ne_nil_of_right_ne_nil _ (by simp)
  have hc := read?_conditionWith field op hv owner (some ' ') hb
  rw [all, Text.findAll, hr, Text.findFrom_found hn hc, hr]
  rfl

/-- A statement on every action with one condition reads back, if its value is read whole and can
stand in a body. -/
theorem read_conditionWith (effect : Effect) (owner field : Word) (op : Operator)
    {value : List Char} {v : Value} (hv : Clause.value? (value ++ [' ']) = some (v, [' ']))
    (hkept : Verbatim (value ++ [' '])) (hb : '}' ∉ value) {text : String}
    (hw : text.toList = Statement.written effect none
      (' ' :: (Clause.conditionWith owner field.text op value ++ [' ']))) :
    read text = [⟨effect, "*", Text.lowerAscii field.text, op, v, text⟩] := by
  let cond := Clause.conditionWith owner field.text op value
  have hs : Verbatim [' '] := verbatim_plain (by decide) (by decide)
  have hcond : Verbatim (cond ++ [' ']) := by
    rw [Clause.conditionWith_append]
    exact Clause.verbatim_conditionWith owner field op hkept
  have hbody : Verbatim (' ' :: (cond ++ [' '])) := hs.append hcond
  have hbrace : '}' ∉ ' ' :: (cond ++ [' ']) := by
    simpa using Clause.not_mem_conditionWith owner field op hb
  have hread := Statement.read?_written hbrace hw none rfl []
  have hn : text.toList ≠ [] := hw ▸ Statement.written_ne_nil effect none _
  have hall : Statement.all text.toList =
      [⟨effect, "*", ' ' :: (cond ++ [' ']), text⟩] := by
    have hf := Text.findFrom_found hn hread
    rw [List.append_nil] at hf
    rw [Statement.all, Text.findAll, hf]
    rfl
  rw [read, stripComments_verbatim (hw ▸ Statement.verbatim_written effect none hbody), hall,
    List.flatMap_singleton, Statement.rules]
  simp only [cond, Clause.all_conditionWith owner field op hv, List.filterMap_cons,
    List.filterMap_nil, Statement.rule?, ofToken?_token, Option.map_some]

section

variable (effect : Effect) (field : Word) (op : Operator) {v : String} (hv : '"' ∉ v.toList)

include hv

/-- A statement on every action with one condition reads back, if its value can stand in quotes in
a body. -/
theorem read_written (owner : Word) (hb : '}' ∉ v.toList) {text : String}
    (hw : text.toList = Statement.written effect none
      (' ' :: (Clause.conditionOf owner field.text op v ++ [' ']))) :
    read text = [⟨effect, "*", Text.lowerAscii field.text, op, .text v, text⟩] := by
  have hs : Verbatim [' '] := verbatim_plain (by decide) (by decide)
  have hbrace : '}' ∉ '"' :: (v.toList ++ ['"']) := by
    simpa using hb
  exact read_conditionWith effect owner field op (Clause.value?_inQuotes hv [' '])
    ((verbatim_quoted hv).append hs) hbrace hw

/-- The statement of a rule on every action reads back, if its value can stand in a body. -/
theorem read_of_not_mem (hb : '}' ∉ v.toList) {text : String}
    (ht : text = printRule ⟨effect, "*", field.text, op, .text v, ""⟩) :
    read text = [⟨effect, "*", Text.lowerAscii field.text, op, .text v, text⟩] := by
  refine read_written effect field op hv Clause.resource hb ?_
  have hp := Statement.toList_printStatement effect none
    [printCondition ⟨effect, "*", field.text, op, .text v, ""⟩]
  rw [List.map_singleton, Clause.toList_printCondition, List.intercalate_singleton] at hp
  rw [ht]
  exact hp

/-- **Closing braces.** A statement on every action with one condition has the rule of its
condition exactly when the value holds no closing brace: without one this rule is all that is
read, and with one no rule has the value. -/
theorem read_printRule :
    ('}' ∉ v.toList →
      read (printRule ⟨effect, "*", field.text, op, .text v, ""⟩) =
        [⟨effect, "*", Text.lowerAscii field.text, op, .text v,
          printRule ⟨effect, "*", field.text, op, .text v, ""⟩⟩]) ∧
    ('}' ∈ v.toList →
      ∀ r ∈ read (printRule ⟨effect, "*", field.text, op, .text v, ""⟩), r.value ≠ .text v) := by
  constructor
  · intro hb
    exact read_of_not_mem effect field op hv hb rfl
  · intro hb r hr he
    exact (not_mem_value_of_read hr he).2 hb

end

/-- A field whose name has capitals. -/
def modelName : Word :=
  ⟨"Model_Name", by decide, by decide⟩

theorem read_modelName :
    ('"' ∉ "a // b;".toList ∧ '}' ∉ "a // b;".toList ∧
      read (printRule ⟨.forbid, "*", modelName.text, .startsWith, .text "a // b;", ""⟩) =
        [⟨.forbid, "*", Text.lowerAscii modelName.text, .startsWith, .text "a // b;",
          printRule ⟨.forbid, "*", modelName.text, .startsWith, .text "a // b;", ""⟩⟩]) ∧
    '"' ∉ "a\x7d;".toList ∧ '}' ∈ "a\x7d;".toList ∧
      ∀ r ∈ read (printRule ⟨.forbid, "*", modelName.text, .equals, .text "a\x7d;", ""⟩),
        r.value ≠ .text "a\x7d;" := by
  have hq : '"' ∉ "a // b;".toList := by
    decide
  have hb : '}' ∉ "a // b;".toList := by
    decide
  have hq' : '"' ∉ "a\x7d;".toList := by
    decide
  have hb' : '}' ∈ "a\x7d;".toList := by
    decide
  exact ⟨⟨hq, hb, (read_printRule .forbid modelName .startsWith hq).1 hb⟩, hq', hb',
    (read_printRule .forbid modelName .equals hq').2 hb'⟩

/-- A brace and a semicolon in the value end the statement, which may leave another rule. -/
example : (read (printRule ⟨.forbid, "*", "name", .greaterOrEqual, .text "\x7d;", ""⟩)).map
    Rule.condition = ["name > \"=\""] := by
  decide +kernel

/-- Not every value keeps its rule: here nothing is read. -/
theorem read_bracedValue :
    ¬ ∀ (effect : Effect) (field : Word) (op : Operator) (v : String), '"' ∉ v.toList →
      read (printRule ⟨effect, "*", field.text, op, .text v, ""⟩) =
        [⟨effect, "*", Text.lowerAscii field.text, op, .text v,
          printRule ⟨effect, "*", field.text, op, .text v, ""⟩⟩] := by
  intro h
  have hq : '"' ∉ "a\x7d".toList := by
    decide
  exact absurd (h .forbid modelName .equals "a\x7d" hq) (by decide +kernel)

end PolicyGuard.Policy
