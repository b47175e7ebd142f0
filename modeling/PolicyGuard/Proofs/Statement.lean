import PolicyGuard.Proofs.Clause
import PolicyGuard.Proofs.Comment

/-!
Statements that are written are the statements that are read.

* `head?_written`, `read?_written`: a statement with any body without a closing brace reads
  back, whatever follows;
* `verbatim_written`: it has no comments, if its body has none;
* `head?_append`, `settled_read?`: what follows a statement does not matter.
-/

namespace PolicyGuard.Policy

/-- A word holds no character that is not a word character. -/
theorem Word.not_mem (w : Word) {c : Char} (hc : Text.isWord c = false) : c ∉ w.text.toList := by
  intro hm
  rw [List.all_eq_true.mp w.isWord c hm] at hc
  exact absurd hc (by decide)

theorem verbatim_word (w : Word) : Verbatim w.text.toList :=
  verbatim_plain (w.not_mem (by decide)) (w.not_mem (by decide))

namespace Clause

section

variable (owner field : Word) (op : Operator)

theorem not_mem_conditionWith {value : List Char} (hv : '}' ∉ value) :
    '}' ∉ conditionWith owner field.text op value := by
  have hw : '}' ∉ owner.text.toList := owner.not_mem (by decide)
  have hf : '}' ∉ ['.'] ++ field.text.toList :=
    List.not_mem_append (by decide) (field.not_mem (by decide))
  have ho : '}' ∉ ' ' :: op.token.toList := by
    cases op <;> decide
  have hs : '}' ∉ [' '] ++ value := List.not_mem_append (by decide) hv
  exact List.not_mem_append hw (List.not_mem_append hf (List.not_mem_append ho hs))

theorem verbatim_conditionWith {value : List Char} (hv : Verbatim value) :
    Verbatim (conditionWith owner field.text op value) := by
  have hp : Verbatim ['.'] := verbatim_plain (by decide) (by decide)
  have ho : Verbatim (' ' :: (op.token.toList ++ [' '])) := by
    apply verbatim_plain <;> cases op <;> decide
  have hw : comparing op value = ' ' :: (op.token.toList ++ [' ']) ++ value := by
    simp [comparing]
  have hc : conditionWith owner field.text op value =
      owner.text.toList ++ (['.'] ++ (field.text.toList ++ comparing op value)) := by
    rfl
  rw [hc, hw]
  exact (verbatim_word owner).append (hp.append ((verbatim_word field).append (ho.append hv)))

variable {v : String}

theorem not_mem_conditionOf (hv : '}' ∉ v.toList) :
    '}' ∉ conditionOf owner field.text op v := by
  have hq : '}' ∉ ['"'] ++ (v.toList ++ ['"']) :=
    List.not_mem_append (by decide) (List.not_mem_append hv (by decide))
  exact not_mem_conditionWith owner field op hq

theorem verbatim_conditionOf (hv : '"' ∉ v.toList) :
    Verbatim (conditionOf owner field.text op v) :=
  verbatim_conditionWith owner field op (verbatim_quoted hv)

end

theorem toList_conditionOf (owner : Word) (effect : Effect) (action field : String)
    (op : Operator) (v source : String) :
    (owner.text ++ "." ++ Rule.condition ⟨effect, action, field, op, .text v, source⟩).toList =
      conditionOf owner field op v := by
  have hp : Rule.condition ⟨effect, action, field, op, .text v, source⟩ =
      field ++ " " ++ op.token ++ " \"" ++ v ++ "\"" := rfl
  unfold conditionOf written
  rw [hp]
  simp only [String.toList_append, List.append_assoc]
  rfl

theorem toList_printCondition (effect : Effect) (action field : String) (op : Operator)
    (v source : String) :
    (printCondition ⟨effect, action, field, op, .text v, source⟩).toList =
      condition field op v := by
  rw [condition_eq, ← toList_conditionOf resource effect action field op v source]
  rfl

end Clause

namespace Statement

/-! ## Written statements -/

/-- What the statement of a verb says after `action`. -/
def verbPart : Option Word → List Char
  | none => []
  | some v => " == Action::\"".toList ++ (v.text.toList ++ ['"'])

/-- A statement with a body, as it is written. -/
def written (effect : Effect) (verb : Option Word) (body : List Char) : List Char :=
  effect.name.toList ++ (" (principal, action".toList ++ (verbPart verb ++
    (", resource) when \x7b".toList ++ (body ++ "\x7d;".toList))))

theorem effect?_name (effect : Effect) (rest : List Char) :
    effect? (effect.name.toList ++ rest) = some (effect, rest) := by
  cases effect <;> rfl

theorem verb?_word (v : Word) (rest : List Char) :
    verb? (verbPart (some v) ++ rest) = some (v.text, rest) := by
  let named := v.text.toList ++ '"' :: rest
  have hq : Text.isWord '"' = false := by
    decide
  have hw : ∀ c ∈ v.text.toList, Text.isWord c = true := List.all_eq_true.mp v.isWord
  have ht : named.takeWhile Text.isWord = v.text.toList := Text.takeWhile_stop hw hq rest
  have hd : named.dropWhile Text.isWord = '"' :: rest := Text.dropWhile_stop hw hq rest
  have hn : v.text.toList.isEmpty = false := by
    simpa using v.ne_nil
  have hv : verbPart (some v) ++ rest = " == Action::\"".toList ++ named := by
    unfold verbPart
    rw [List.append_assoc, List.append_assoc]
    rfl
  have hequals : mark? "==" (" == Action::\"".toList ++ named) =
      some (" Action::\"".toList ++ named) := rfl
  have haction : word? "action" (Text.skipBlanks (" Action::\"".toList ++ named)) =
      some ("::\"".toList ++ named) := rfl
  have hquote : Text.after? "::\"".toList ("::\"".toList ++ named) = some named := rfl
  have hend : Text.after? ['"'] ('"' :: rest) = some rest := rfl
  rw [hv, verb?, hequals, Option.bind_eq_bind, Option.bind_some, haction]
  simp only [Option.bind_some, hquote, ht, hd, hend, hn, Bool.false_eq_true, ↓reduceIte,
    String.ofList_toList]

theorem verb?_written (verb : Option Word) (rest : List Char) :
    (verb? (verbPart verb ++ (", resource) when \x7b".toList ++ rest))).getD
        ("*", verbPart verb ++ (", resource) when \x7b".toList ++ rest)) =
      ((verb.map Word.text).getD "*", ", resource) when \x7b".toList ++ rest) := by
  cases verb with
  | none => rfl
  | some v =>
    rw [verb?_word]
    rfl

theorem head?_written (effect : Effect) (verb : Option Word) {body : List Char}
    (hb : '}' ∉ body) (rest : List Char) :
    head? (written effect verb body ++ rest) =
      some (⟨effect, (verb.map Word.text).getD "*", body,
        String.ofList (written effect verb body)⟩, rest) := by
  let closed := body ++ '}' :: ';' :: rest
  let opened := ", resource) when \x7b".toList ++ closed
  let acting := verbPart verb ++ opened
  let whole := effect.name.toList ++ (" (principal, action".toList ++ acting)
  have hw : written effect verb body ++ rest = whole := by
    unfold written
    rw [List.append_assoc, List.append_assoc, List.append_assoc, List.append_assoc,
      List.append_assoc]
    rfl
  have hs : whole.take (whole.length - rest.length) = written effect verb body := by
    rw [← hw, Text.length_taken, List.take_left]
  have ht : closed.takeWhile (· ≠ '}') = body :=
    Text.takeWhile_stop (Text.passes_of_not_mem hb) (by decide) (';' :: rest)
  have hd : closed.dropWhile (· ≠ '}') = '}' :: ';' :: rest :=
    Text.dropWhile_stop (Text.passes_of_not_mem hb) (by decide) (';' :: rest)
  have hopen : mark? "(" (" (principal, action".toList ++ acting) =
      some ("principal, action".toList ++ acting) := rfl
  have hprincipal : word? "principal" (Text.skipBlanks ("principal, action".toList ++ acting)) =
      some (", action".toList ++ acting) := rfl
  have hcomma : mark? "," (", action".toList ++ acting) = some (" action".toList ++ acting) := rfl
  have haction : word? "action" (Text.skipBlanks (" action".toList ++ acting)) = some acting := rfl
  have hverb : (verb? acting).getD ("*", acting) = ((verb.map Word.text).getD "*", opened) :=
    verb?_written verb closed
  have hcomma' : mark? "," opened = some (" resource) when \x7b".toList ++ closed) := rfl
  have hresource : word? "resource" (Text.skipBlanks (" resource) when \x7b".toList ++ closed)) =
      some (") when \x7b".toList ++ closed) := rfl
  have hclose : mark? ")" (") when \x7b".toList ++ closed) =
      some (" when \x7b".toList ++ closed) := rfl
  have hwhen : word? "when" (Text.skipBlanks (" when \x7b".toList ++ closed)) =
      some (" \x7b".toList ++ closed) := rfl
  have hbrace : mark? "\x7b" (" \x7b".toList ++ closed) = some closed := rfl
  have hbody : Text.after? ['}'] ('}' :: ';' :: rest) = some (';' :: rest) := rfl
  have hend : mark? ";" (';' :: rest) = some rest := rfl
  unfold head?
  rw [hw, effect?_name]
  simp only [Option.bind_eq_bind, Option.bind_some, hopen, hprincipal, hcomma, haction, hverb,
    hcomma', hresource, hclose, hwhen, hbrace, ht, hd, hbody, hend, hs, Option.pure_def]

theorem written_ne_nil (effect : Effect) (verb : Option Word) (body : List Char) :
    written effect verb body ≠ [] := by
  rw [written]
  cases effect <;> exact List.cons_ne_nil _ _

/-- Wherever a word can start, the statement of a text reads back with the text as its source. -/
theorem read?_written {effect : Effect} {verb : Option Word} {body : List Char}
    (hb : '}' ∉ body) {text : String} (ht : text.toList = written effect verb body)
    (before : Option Char) (hw : before.any Text.isWord = false) (rest : List Char) :
    read? before (text.toList ++ rest) =
      some (⟨effect, (verb.map Word.text).getD "*", body, text⟩, text.toList.length) := by
  have hh := head?_written effect verb hb rest
  have hl := Text.length_taken text.toList rest
  rw [← ht, String.ofList_toList] at hh
  rw [read?, hw, hh]
  simp only [Bool.false_eq_true, ↓reduceIte, Option.map_some, hl]

theorem verbatim_verbPart (verb : Option Word) : Verbatim (verbPart verb) := by
  cases verb with
  | none => exact verbatim_nil
  | some v =>
    have ha : Verbatim " == Action::".toList := verbatim_plain (by decide) (by decide)
    exact ha.append (verbatim_quoted (v.not_mem (by decide)))

theorem verbatim_written (effect : Effect) (verb : Option Word) {body : List Char}
    (hb : Verbatim body) : Verbatim (written effect verb body) := by
  have he : Verbatim effect.name.toList := by
    apply verbatim_plain <;> cases effect <;> decide
  have hp : Verbatim " (principal, action".toList := verbatim_plain (by decide) (by decide)
  have hr : Verbatim ", resource) when \x7b".toList := verbatim_plain (by decide) (by decide)
  have hc : Verbatim "\x7d;".toList := verbatim_plain (by decide) (by decide)
  exact he.append (hp.append ((verbatim_verbPart verb).append (hr.append (hb.append hc))))

theorem toList_printAction (verb : Option Word) :
    (printAction (verb.map Word.text)).toList = "action".toList ++ verbPart verb := by
  cases verb with
  | none => rfl
  | some v =>
    have hp : printAction (some v.text) = "action" ++ " == Action::\"" ++ v.text ++ "\"" := rfl
    unfold verbPart
    rw [Option.map_some, hp, String.toList_append, String.toList_append, String.toList_append,
      List.append_assoc, List.append_assoc]
    rfl

theorem toList_printStatement (effect : Effect) (verb : Option Word) (conditions : List String) :
    (printStatement effect (verb.map Word.text) conditions).toList = written effect verb
      (' ' :: (" && ".toList.intercalate (conditions.map String.toList) ++ [' '])) := by
  unfold printStatement
  rw [String.toList_append, String.toList_append, String.toList_append, String.toList_append,
    String.toList_append, toList_printAction, String.toList_intercalate]
  rw [List.append_assoc, List.append_assoc, List.append_assoc, List.append_assoc,
    List.append_assoc]
  unfold written
  rw [List.cons_append, List.append_assoc]
  rfl

/-! ## What follows a statement -/

theorem afterWord?_append {word cs : List Char} {found : List Char × List Char}
    (h : Clause.afterWord? word cs = some found) (more : List Char) :
    Clause.afterWord? word (cs ++ more) = some (found.1, found.2 ++ more) := by
  induction word generalizing cs found with
  | nil =>
    obtain rfl : ([], cs) = found := Option.some.inj h
    rfl
  | cons w ws ih =>
    cases cs with
    | nil => exact absurd h (by simp [Clause.afterWord?])
    | cons c cs =>
      by_cases hc : Text.matchesLetter w c = true
      · simp only [Clause.afterWord?, hc, ↓reduceIte, Option.map_eq_some_iff] at h
        obtain ⟨found', hf, rfl⟩ := h
        simp only [List.cons_append, Clause.afterWord?, hc, ↓reduceIte, ih hf, Option.map_some]
      · simp [Clause.afterWord?, hc] at h

theorem word?_append {word : String} {cs rest : List Char} (h : word? word cs = some rest)
    (more : List Char) : word? word (cs ++ more) = some (rest ++ more) := by
  obtain ⟨found, hf, rfl⟩ := Option.map_eq_some_iff.mp h
  rw [word?, afterWord?_append hf more]
  rfl

theorem exists_of_word? {word : String} {w : Char} {ws cs rest : List Char}
    (hw : word.toList = w :: ws) (h : word? word cs = some rest) :
    ∃ c tail, cs = c :: tail ∧ Text.matchesLetter w c = true := by
  unfold word? at h
  rw [hw] at h
  cases cs with
  | nil => simp [Clause.afterWord?] at h
  | cons c tail =>
    refine ⟨c, tail, rfl, ?_⟩
    cases hc : Text.matchesLetter w c with
    | true => rfl
    | false => simp [Clause.afterWord?, hc] at h

theorem blankWord?_append {word : String} (hw : word.toList ≠ []) {cs rest : List Char}
    (h : word? word (Text.skipBlanks cs) = some rest) (more : List Char) :
    word? word (Text.skipBlanks (cs ++ more)) = some (rest ++ more) := by
  obtain ⟨w, ws, hws⟩ := List.exists_cons_of_ne_nil hw
  obtain ⟨c, tail, hc, -⟩ := exists_of_word? hws h
  have hm := word?_append h more
  rwa [hc, List.cons_append, ← Text.skipBlanks_append hc more] at hm

theorem mark?_append {symbol : String} (hs : symbol.toList ≠ []) {cs rest : List Char}
    (h : mark? symbol cs = some rest) (more : List Char) :
    mark? symbol (cs ++ more) = some (rest ++ more) := by
  unfold mark? at h ⊢
  have hm := Text.after?_append h more
  cases hc : Text.skipBlanks cs with
  | nil =>
    obtain ⟨w, ws, hws⟩ := List.exists_cons_of_ne_nil hs
    simp [hc, hws, Text.after?] at h
  | cons c tail => rwa [hc, List.cons_append, ← Text.skipBlanks_append hc more] at hm

theorem effect?_append {cs : List Char} {found : Effect × List Char}
    (h : effect? cs = some found) (more : List Char) :
    effect? (cs ++ more) = some (found.1, found.2 ++ more) := by
  unfold effect? at h ⊢
  cases hf : word? "forbid" cs with
  | some rest =>
    rw [hf] at h
    obtain rfl : (Effect.forbid, rest) = found := Option.some.inj h
    rw [word?_append hf more]
  | none =>
    rw [hf] at h
    obtain ⟨rest, hp, rfl⟩ := Option.map_eq_some_iff.mp h
    -- a text that starts with one of the two words starts with no other
    have hw : "permit".toList = 'p' :: "ermit".toList := rfl
    obtain ⟨c, tail, rfl, hc⟩ := exists_of_word? hw hp
    have hl : Text.matchesLetter 'f' c = false := by
      have hp : c.toLower = 'p' := by
        simpa [Text.matchesLetter] using hc
      simp [Text.matchesLetter, hp]
    have hn : word? "forbid" (c :: tail ++ more) = none := by
      simp [word?, Clause.afterWord?, hl]
    rw [hn, word?_append hp more]
    rfl

/-- A text that goes on after a character starts with that character. -/
theorem eq_cons_of_after? {c : Char} {cs rest : List Char}
    (h : Text.after? [c] cs = some rest) : cs = c :: rest :=
  (Text.after?_eq_some_iff.mp h).symm

theorem verb?_append {cs : List Char} {found : String × List Char}
    (h : verb? cs = some found) (more : List Char) :
    verb? (cs ++ more) = some (found.1, found.2 ++ more) := by
  simp only [verb?, Option.bind_eq_bind, Option.bind_eq_some_iff] at h
  obtain ⟨r1, h1, r2, h2, r3, h3, r4, h4, h5⟩ := h
  have hd := eq_cons_of_after? h4
  obtain ⟨ht, hd'⟩ := Text.span_append hd more
  have ha : Text.after? ['"'] ('"' :: (r4 ++ more)) = some (r4 ++ more) := rfl
  simp only [Option.ite_none_left_eq_some, Option.some.injEq] at h5
  obtain ⟨hn, rfl⟩ := h5
  simp only [verb?, mark?_append (by decide) h1 more, blankWord?_append (by decide) h2 more,
    Text.after?_append h3 more, ht, hd', ha, hn, Option.bind_eq_bind, Option.bind_some,
    Bool.false_eq_true, ↓reduceIte]

/-- What the action is said to be, and what follows. -/
def verbOrAny (cs : List Char) : String × List Char :=
  (verb? cs).getD ("*", cs)

theorem verbOrAny_append {cs rest : List Char} (h : mark? "," (verbOrAny cs).2 = some rest)
    (more : List Char) :
    verbOrAny (cs ++ more) = ((verbOrAny cs).1, (verbOrAny cs).2 ++ more) := by
  unfold verbOrAny at h ⊢
  cases hv : verb? cs with
  | some found =>
    rw [verb?_append hv more]
    rfl
  | none =>
    rw [hv] at h
    -- a comma comes next, and no comparison starts with one
    have hc : Text.skipBlanks cs = ',' :: rest := eq_cons_of_after? h
    have hm : mark? "==" (cs ++ more) = none := by
      rw [mark?, Text.skipBlanks_append hc more]
      rfl
    have hn : verb? (cs ++ more) = none := by
      rw [verb?, hm]
      rfl
    rw [hn]
    rfl

theorem length_append_sub (cs rest more : List Char) :
    (cs ++ more).length - (rest ++ more).length = cs.length - rest.length := by
  rw [List.length_append, List.length_append]
  omega

theorem take_append (cs rest more : List Char) :
    (cs ++ more).take ((cs ++ more).length - (rest ++ more).length) =
      cs.take (cs.length - rest.length) := by
  rw [length_append_sub, List.take_append_of_le_length (Nat.sub_le ..)]

theorem head?_append {cs : List Char} {found : Statement × List Char}
    (h : head? cs = some found) (more : List Char) :
    head? (cs ++ more) = some (found.1, found.2 ++ more) := by
  unfold head? at h ⊢
  simp only [Option.bind_eq_bind, Option.bind_eq_some_iff] at h
  obtain ⟨r1, h1, r2, h2, r3, h3, r4, h4, r5, h5, r6, h6, r7, h7, r8, h8, r9, h9, r10, h10, r11,
    h11, r12, h12, h⟩ := h
  obtain rfl := Option.some.inj h
  have hv := verbOrAny_append h6 more
  unfold verbOrAny at hv
  obtain ⟨ht, hd⟩ := Text.span_append (eq_cons_of_after? h11) more
  have hb : Text.after? ['}'] ('}' :: (r11 ++ more)) = some (r11 ++ more) := rfl
  simp only [effect?_append h1 more, mark?_append (by decide) h2 more,
    blankWord?_append (by decide) h3 more, mark?_append (by decide) h4 more,
    blankWord?_append (by decide) h5 more, hv, mark?_append (by decide) h6 more,
    blankWord?_append (by decide) h7 more, mark?_append (by decide) h8 more,
    blankWord?_append (by decide) h9 more, mark?_append (by decide) h10 more, ht, hd, hb,
    mark?_append (by decide) h12 more, take_append, Option.bind_eq_bind, Option.bind_some,
    Option.pure_def]

theorem exists_effect?_of_head? {cs : List Char} {found : Statement × List Char}
    (h : head? cs = some found) : ∃ rest, effect? cs = some (found.1.effect, rest) := by
  unfold head? at h
  simp only [Option.bind_eq_bind, Option.bind_eq_some_iff] at h
  obtain ⟨e, he, _, -, _, -, _, -, _, -, _, -, _, -, _, -, _, -, _, -, _, -, _, -, h⟩ := h
  obtain rfl := Option.some.inj h
  exact ⟨e.2, he⟩

/-- The body of a statement ends before the first closing brace. -/
theorem not_mem_body {cs : List Char} {found : Statement × List Char}
    (h : head? cs = some found) : '}' ∉ found.1.body := by
  unfold head? at h
  simp only [Option.bind_eq_bind, Option.bind_eq_some_iff] at h
  obtain ⟨_, -, _, -, _, -, _, -, _, -, _, -, _, -, _, -, _, -, _, -, _, -, _, -, h⟩ := h
  obtain rfl := Option.some.inj h
  intro hm
  simpa using List.all_eq_true.mp List.all_takeWhile _ hm

/-- What is read is a statement and what is left of its text. -/
theorem exists_of_read? {before : Option Char} {cs : List Char} {s : Statement} {n : Nat}
    (h : read? before cs = some (s, n)) :
    before.any Text.isWord = false ∧
      ∃ rest, head? cs = some (s, rest) ∧ n = cs.length - rest.length := by
  unfold read? at h
  simp only [Option.ite_none_left_eq_some, Bool.not_eq_true, Option.map_eq_some_iff] at h
  obtain ⟨hb, ⟨s', rest⟩, hh, he⟩ := h
  obtain ⟨rfl, rfl⟩ := Prod.mk.inj he
  exact ⟨hb, rest, hh, rfl⟩

theorem settled_read? : Text.Settled read? where
  append := by
    intro before cs s n h more
    obtain ⟨hb, rest, hh, rfl⟩ := exists_of_read? h
    rw [read?, hb, head?_append hh more]
    simp only [Bool.false_eq_true, ↓reduceIte, Option.map_some, length_append_sub]
  le := by
    intro before cs s n h
    obtain ⟨-, rest, -, rfl⟩ := exists_of_read? h
    exact Nat.sub_le ..

/-! ## Line breaks -/

/-- A word does not run over a line break. -/
theorem exists_afterWord?_of_newline {word cs ys : List Char} {found : List Char × List Char}
    (hw : word.all (!Text.matchesLetter · '\n') = true)
    (h : Clause.afterWord? word (cs ++ '\n' :: ys) = some found) :
    ∃ found', Clause.afterWord? word cs = some found' := by
  induction word generalizing cs found with
  | nil => exact ⟨_, rfl⟩
  | cons w ws ih =>
    rw [List.all_cons, Bool.and_eq_true, Bool.not_eq_true'] at hw
    obtain ⟨hn, hws⟩ := hw
    cases cs with
    | nil => simp [Clause.afterWord?, hn] at h
    | cons c cs =>
      cases hc : Text.matchesLetter w c with
      | false => simp [Clause.afterWord?, hc] at h
      | true =>
        simp only [List.cons_append, Clause.afterWord?, hc, ↓reduceIte,
          Option.map_eq_some_iff] at h
        obtain ⟨found', hf, -⟩ := h
        obtain ⟨found'', hf'⟩ := ih hws hf
        exact ⟨_, by rw [Clause.afterWord?, if_pos hc, hf', Option.map_some]⟩

theorem exists_word?_of_newline {word : String} {cs ys rest : List Char}
    (hw : word.toList.all (!Text.matchesLetter · '\n') = true)
    (h : word? word (cs ++ '\n' :: ys) = some rest) : ∃ rest', word? word cs = some rest' := by
  obtain ⟨found, hf, -⟩ := Option.map_eq_some_iff.mp h
  obtain ⟨found', hf'⟩ := exists_afterWord?_of_newline hw hf
  exact ⟨found'.2, by rw [word?, hf', Option.map_some]⟩

/-- The effect of a statement stands on the line on which the statement starts. -/
theorem exists_effect?_of_newline {cs ys : List Char} {found : Effect × List Char}
    (h : effect? (cs ++ '\n' :: ys) = some found) : ∃ rest, effect? cs = some (found.1, rest) := by
  unfold effect? at h ⊢
  cases hf : word? "forbid" (cs ++ '\n' :: ys) with
  | some rest =>
    rw [hf] at h
    obtain rfl : (Effect.forbid, rest) = found := Option.some.inj h
    obtain ⟨rest', hr⟩ := exists_word?_of_newline (by decide) hf
    exact ⟨rest', by rw [hr]⟩
  | none =>
    rw [hf] at h
    obtain ⟨rest, hp, rfl⟩ := Option.map_eq_some_iff.mp h
    obtain ⟨rest', hr⟩ := exists_word?_of_newline (by decide) hp
    have hn : word? "forbid" cs = none := by
      cases hc : word? "forbid" cs with
      | none => rfl
      | some found => rw [word?_append hc] at hf; exact absurd hf (by simp)
    exact ⟨rest', by rw [hn, hr, Option.map_some]⟩

/-- A line break starts no statement. -/
theorem read?_newline (before : Option Char) (cs : List Char) :
    read? before ('\n' :: cs) = none := by
  have hh : head? ('\n' :: cs) = none := rfl
  unfold read?
  rw [hh]
  exact ite_self none

/-- After a line break a scan starts afresh. -/
theorem findFrom_newline (before : Option Char) (cs : List Char) :
    Text.findFrom read? 0 before ('\n' :: cs) = all cs := by
  have hw : Text.isWord '\n' = false := by
    decide
  have hb (xs : List Char) : read? (some '\n') xs = read? none xs := by
    simp [read?, hw]
  rw [Text.findFrom, read?_newline, all, Text.findAll]
  cases cs with
  | nil => rfl
  | cons c cs => rw [Text.findFrom, Text.findFrom, hb]

end Statement

end PolicyGuard.Policy
