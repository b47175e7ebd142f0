import PolicyGuard.Proofs.Statement

/-!
Reading a policy inverts writing it.

* `toList_text`: the text of a draft is a written statement around its conditions;
* `verbatim_text`: it has no comments, whatever its values are;
* `rules_statement`: its statement has the rules of the draft;
* `read_text`: any list of drafts, one on a line, reads back as their rules.
-/

namespace PolicyGuard.Policy

theorem ofToken?_token (op : Operator) : Operator.ofToken? op.token = some op := by
  cases op <;> decide

namespace Draft

/-! ## The text of a draft -/

theorem toList_text (d : Draft) :
    d.text.toList = Statement.written d.effect d.verb (Condition.body d.conditions) := by
  have hc : (d.conditions.map fun c => printCondition (d.rule "" c)).map String.toList =
      d.conditions.map Condition.chars := by
    rw [List.map_map]
    exact List.map_congr_left fun c _ =>
      Clause.toList_printCondition d.effect d.action c.field.text c.operator c.value ""
  rw [text, Statement.toList_printStatement, hc]
  rfl

/-- The statement that a draft becomes. -/
def statement (d : Draft) : Statement :=
  ⟨d.effect, d.action, Condition.body d.conditions, d.text⟩

/-! ## Scanning the text of a draft -/

theorem Condition.not_mem_chars (c : Condition) : '}' ∉ c.chars :=
  Clause.not_mem_conditionOf Clause.resource c.field c.operator c.unclosed

theorem Condition.not_mem_body (cs : List Condition) : '}' ∉ Condition.body cs := by
  have hs : '}' ∉ " && ".toList := by
    decide
  have hc : '}' ∉ " && ".toList.intercalate (cs.map chars) := by
    refine Text.not_mem_intercalate hs fun xs hx => ?_
    obtain ⟨c, -, rfl⟩ := List.mem_map.mp hx
    exact not_mem_chars c
  have hb : '}' ∉ [' '] := by
    decide
  exact List.not_mem_append hb (List.not_mem_append hc hb)

theorem Condition.verbatim_chars (c : Condition) : Verbatim c.chars :=
  Clause.verbatim_conditionOf Clause.resource c.field c.operator c.unquoted

theorem Condition.verbatim_body (cs : List Condition) : Verbatim (Condition.body cs) := by
  have hb : Verbatim [' '] := verbatim_plain (by decide) (by decide)
  have hs : Verbatim " && ".toList := verbatim_plain (by decide) (by decide)
  have hc : Verbatim (" && ".toList.intercalate (cs.map chars)) := by
    refine hs.intercalate fun xs hx => ?_
    obtain ⟨c, -, rfl⟩ := List.mem_map.mp hx
    exact verbatim_chars c
  exact hb.append (hc.append hb)

theorem verbatim_text (d : Draft) : Verbatim d.text.toList := by
  rw [toList_text]
  exact Statement.verbatim_written d.effect d.verb (Condition.verbatim_body d.conditions)

/-! ## Reading -/

theorem text_ne_nil (d : Draft) : d.text.toList ≠ [] := by
  rw [toList_text]
  exact Statement.written_ne_nil d.effect d.verb _

/-- A draft is one statement wherever a word can start, whatever follows. -/
theorem read?_text (d : Draft) (before : Option Char) (hb : before.any Text.isWord = false)
    (rest : List Char) :
    Statement.read? before (d.text.toList ++ rest) = some (d.statement, d.text.toList.length) :=
  Statement.read?_written (Condition.not_mem_body d.conditions) (toList_text d) before hb rest

theorem rule?_clause (d : Draft) (c : Condition) :
    d.statement.rule? c.clause = some (d.rule d.text c) := by
  unfold Statement.rule? Condition.clause
  rw [ofToken?_token]
  rfl

theorem rules_statement (d : Draft) : d.statement.rules = d.rules := by
  have hb : Clause.all d.statement.body = d.conditions.map Condition.clause :=
    Condition.all_body d.conditions
  have hr : d.statement.rule? ∘ Condition.clause = some ∘ d.rule d.text :=
    funext (rule?_clause d)
  unfold Statement.rules rules
  rw [hb, List.filterMap_map, hr, List.filterMap_eq_map]

theorem all_text (ds : List Draft) :
    Statement.all (['\n'].intercalate (ds.map fun d => d.text.toList)) = ds.map statement := by
  have hb : Text.isWord '\n' = false := by
    decide
  have hs (before : Option Char) : (Text.preceding before ['\n']).any Text.isWord = false := hb
  have hp (before : Option Char) (c : Char) (hc : c ∈ ['\n']) (cs : List Char) :
      Statement.read? before (c :: cs) = none := by
    obtain rfl : c = '\n' := List.mem_singleton.mp hc
    exact Statement.read?_newline before cs
  have hf : (none : Option Char).any Text.isWord = false := rfl
  have hj := Text.findFrom_intercalate hp hs text_ne_nil read?_text ds hf []
  rw [List.append_nil] at hj
  rw [Statement.all, Text.findAll, hj]
  exact List.append_nil _

/-- **Round trip.** Drafts on lines of their own read back as their rules, in order. -/
theorem read_text (ds : List Draft) :
    read ("\n".intercalate (ds.map Draft.text)) = ds.flatMap Draft.rules := by
  have hn : Verbatim ['\n'] := verbatim_plain (by decide) (by decide)
  have hv : Verbatim (['\n'].intercalate (ds.map fun d => d.text.toList)) := by
    refine hn.intercalate fun xs hx => ?_
    obtain ⟨d, -, rfl⟩ := List.mem_map.mp hx
    exact verbatim_text d
  have ht : ("\n".intercalate (ds.map Draft.text)).toList =
      ['\n'].intercalate (ds.map fun d => d.text.toList) := by
    rw [String.toList_intercalate, List.map_map]
    rfl
  rw [read, ht, stripComments_verbatim hv, all_text, List.flatMap_map]
  exact congrArg (ds.flatMap ·) (funext rules_statement)

/-- A draft whose value looks like a comment and the start of a statement. -/
def lookAlike : Draft where
  effect := .permit
  verb := some ⟨"http", by decide, by decide⟩
  conditions :=
    [⟨⟨"path", by decide, by decide⟩, by decide, .contains,
      "// && a.b == 1;\nforbid (principal, action, resource) when \x7b", by decide, by decide⟩]
  ne_nil := by decide

example : (read lookAlike.text).map (fun r => (r.effect, r.action, r.field)) =
    [(.permit, "http", "path")] := by
  decide +kernel

end Draft

end PolicyGuard.Policy
