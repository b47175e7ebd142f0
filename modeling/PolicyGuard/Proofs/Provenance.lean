import PolicyGuard.Proofs.ClosingBrace
import PolicyGuard.Proofs.Grammar
import PolicyGuard.Proofs.Lowercase

/-!
Whatever is read from a policy is written in it.

* `inTurn_findFrom`: what a scan finds stands in the text from left to right, without overlap;
* `Clause.mem_texts_of_mem_all`: a clause stands in the body, with its value;
* `Statement.avoids_opening`: no brace stands before the braces of the body;
* `read_grounded`: every rule is grounded in the statement that it comes from.
-/

namespace PolicyGuard.Text

/-! ## Places -/

/-- The parts stand in a text one after the other, without overlap. -/
inductive InTurn : List (List Char) → List Char → Prop where
  | done (cs : List Char) : InTurn [] cs
  | next (gap part : List Char) {parts : List (List Char)} {rest : List Char} :
      InTurn parts rest → InTurn (part :: parts) (gap ++ (part ++ rest))

theorem InTurn.cons {parts : List (List Char)} {cs : List Char} (h : InTurn parts cs) (c : Char) :
    InTurn parts (c :: cs) := by
  cases h with
  | done => exact .done _
  | next gap part h => exact .next (c :: gap) part h

/-- What a scan finds stands in turn, if each match is a text that the scan then leaves. -/
theorem inTurn_findFrom {α : Type} {match? : Option Char → List Char → Option (α × Nat)}
    {text : α → List Char}
    (h : ∀ {before cs a n}, match? before cs = some (a, n) →
      text a ≠ [] ∧ text a <+: cs ∧ n = (text a).length)
    (before : Option Char) (cs : List Char) :
    InTurn ((findFrom match? 0 before cs).map text) cs := by
  -- the scan goes on where a match ends, so the induction is on the length
  induction hn : cs.length using Nat.strongRecOn generalizing before cs with
  | ind n ih =>
    cases cs with
    | nil => exact .done []
    | cons c tail =>
      rw [List.length_cons] at hn
      cases hm : match? before (c :: tail) with
      | none =>
        rw [findFrom, hm]
        exact (ih tail.length (by omega) (some c) tail rfl).cons c
      | some found =>
        obtain ⟨ht, ⟨rest, hr⟩, hl⟩ := h hm
        have hlength : rest.length < n := by
          have hp := List.length_pos_iff.mpr ht
          have hc := congrArg List.length hr
          rw [List.length_append, List.length_cons] at hc
          omega
        have hf : match? before (text found.1 ++ rest) =
            some (found.1, (text found.1).length) := by
          rw [hr, hm, ← hl]
        rw [← hr, findFrom_found ht hf]
        exact .next [] (text found.1) (ih rest.length hlength _ rest rfl)

/-! ## Words -/

theorem isWord_of_isAlpha {c : Char} (h : c.isAlpha = true) : isWord c = true := by
  have hn : c.toNat < 128 := by
    have hr := toNat_of_isAlpha h
    omega
  have hc : c.val < 128 := UInt32.lt_iff_toNat_lt.mpr hn
  simp [isWord, hc, isAsciiWord, Char.isAlphanum, h]

/-- Lower case of ASCII keeps and makes word characters. -/
theorem isWord_toLower (c : Char) : isWord c.toLower = isWord c := by
  by_cases hc : c.toNat < 128
  · have hw : ∀ n < 128, isWord (Char.ofNat n).toLower = isWord (Char.ofNat n) := by
      decide
    rw [← Char.ofNat_toNat c]
    exact hw c.toNat hc
  · rw [toLower_of_lt (by omega)]

theorem isWord_of_matchesLetter {w c : Char} (hw : w.isAlpha = true)
    (h : matchesLetter w c = true) : isWord c = true := by
  simp only [matchesLetter, Bool.or_eq_true, Bool.and_eq_true, decide_eq_true_eq] at h
  rcases h with (rfl | ⟨-, rfl⟩) | ⟨-, rfl⟩
  · rw [← isWord_toLower]
    exact isWord_of_isAlpha hw
  · decide +kernel
  · decide +kernel

theorem lowerAscii_lowerAscii (s : String) : lowerAscii (lowerAscii s) = lowerAscii s := by
  have hm : (s.toList.map Char.toLower).map Char.toLower = s.toList.map Char.toLower := by
    rw [List.map_map]
    exact List.map_congr_left fun c _ => toLower_toLower c
  rw [lowerAscii, lowerAscii, String.toList_ofList, hm]

end PolicyGuard.Text

namespace PolicyGuard.Policy

/-! ## Clauses -/

/-- How a value may be written: a text in quotes or without, a number as it is read. -/
def Value.texts : Value → Language Char
  | .text s => {xs | xs = s.toList ∨ xs = '"' :: (s.toList ++ ['"'])}
  | .number x => {xs | ofToken xs = .number x}

/-- The words that are a field when their case is ignored. -/
def named (field : String) : Language Char :=
  {xs | (∃ name : Word, name.text.toList = xs) ∧ Text.lowerAscii (String.ofList xs) = field}

namespace Clause

/-- How the operator and the value after a field may be written. -/
def comparisons (token : String) (value : Value) : Language Char :=
  mark token * (blanks * value.texts)

/-- How a clause may be written, from the point on. -/
def texts (c : Clause) : Language Char :=
  exactly "." * (named c.field * comparisons c.token c.value)

theorem mem_texts_of_ofToken (token : List Char) : token ∈ (Value.ofToken token).texts := by
  cases hv : Value.ofToken token with
  | number x => exact hv
  | text s =>
    refine .inl ?_
    unfold Value.ofToken at hv
    split at hv
    · cases hv
    · split at hv
      · cases hv
      · obtain rfl := Value.text.inj hv
        exact String.toList_ofList.symm

/-- What is read as a value is a text of it. -/
theorem mem_texts_of_value? {cs rest : List Char} {v : Value} (h : value? cs = some (v, rest)) :
    ∃ xs ∈ v.texts, xs ++ rest = cs := by
  unfold value? at h
  split at h
  next body =>
    split at h
    next q tail hd =>
      cases h
      refine ⟨_, .inr rfl, ?_⟩
      have hq : q = '"' := by
        have hn := List.head?_dropWhile_not (· ≠ '"') body
        rw [hd] at hn
        simpa using hn
      have hb := List.takeWhile_append_dropWhile (p := (· ≠ '"')) (l := body)
      rw [hd, hq] at hb
      rw [String.toList_ofList, List.cons_append, List.append_assoc]
      exact congrArg ('"' :: ·) hb
    next => cases h
  next =>
    rw [Option.ite_none_left_eq_some] at h
    cases h.2
    exact ⟨_, mem_texts_of_ofToken _, List.takeWhile_append_dropWhile⟩

theorem mem_comparisons {cs rest : List Char} {token : String} {v : Value}
    (h : comparison? cs = some (token, v, rest)) :
    ∃ xs ∈ comparisons token v, xs ++ rest = cs := by
  obtain ⟨operator?, ho, hv⟩ := List.exists_of_findSome?_eq_some h
  simp only [Option.bind_eq_bind, Option.bind_eq_some_iff] at hv
  obtain ⟨⟨written, after⟩, hf, ⟨v', rest'⟩, hv, he⟩ := hv
  cases he
  obtain ⟨xs, hx, hxs⟩ := mem_texts_of_value? hv
  obtain ⟨gap, hg, hcs⟩ := exists_blanks cs
  obtain ⟨gap', hg', hafter⟩ := exists_blanks after
  have hmark : gap ++ written ∈ mark (String.ofList written) :=
    Language.append_mem_mul hg String.toList_ofList.symm
  refine ⟨_, Language.append_mem_mul hmark (Language.append_mem_mul hg' hx), ?_⟩
  calc gap ++ written ++ (gap' ++ xs) ++ rest'
      = gap ++ (written ++ (gap' ++ (xs ++ rest'))) := by simp only [List.append_assoc]
    _ = cs := by rw [hxs, hafter, append_of_operator ho hf, hcs]

theorem mem_comparisons_of_endingHere? {taken cs rest : List Char} {c : Clause}
    (ht : ∀ x ∈ taken, Text.isWord x = true) (h : endingHere? taken cs = some (c, rest)) :
    taken.reverse ∈ named c.field ∧ ∃ xs ∈ comparisons c.token c.value, xs ++ rest = cs := by
  simp only [endingHere?, Option.ite_none_left_eq_some, Option.map_eq_some_iff] at h
  obtain ⟨hn, ⟨token, v, rest'⟩, hc, he⟩ := h
  cases he
  have hne : (String.ofList taken.reverse).toList ≠ [] := by
    simpa using hn
  have hall : (String.ofList taken.reverse).toList.all Text.isWord = true := by
    rw [String.toList_ofList, List.all_reverse]
    exact List.all_eq_true.mpr ht
  exact ⟨⟨⟨⟨_, hne, hall⟩, String.toList_ofList⟩, rfl⟩, mem_comparisons hc⟩

/-- The field goes on from the part of it that is taken. -/
theorem exists_named_of_afterPoint? {taken cs rest : List Char} {c : Clause}
    (ht : ∀ x ∈ taken, Text.isWord x = true) (h : afterPoint? taken cs = some (c, rest)) :
    ∃ more, taken.reverse ++ more ∈ named c.field ∧
      ∃ xs ∈ comparisons c.token c.value, more ++ (xs ++ rest) = cs := by
  induction cs generalizing taken with
  | nil => simp [afterPoint?] at h
  | cons x tail ih =>
    have hend (h : endingHere? taken (x :: tail) = some (c, rest)) :
        ∃ more, taken.reverse ++ more ∈ named c.field ∧
          ∃ xs ∈ comparisons c.token c.value, more ++ (xs ++ rest) = x :: tail := by
      refine ⟨[], ?_⟩
      rw [List.append_nil]
      exact mem_comparisons_of_endingHere? ht h
    unfold afterPoint? at h
    split at h
    next hw =>
      split at h
      next found hf =>
        obtain rfl := Option.some.inj h
        obtain ⟨more, hm, xs, hx, hxs⟩ := ih (List.forall_mem_cons.mpr ⟨hw, ht⟩) hf
        rw [List.reverse_cons, List.append_assoc] at hm
        exact ⟨x :: more, hm, xs, hx, congrArg (x :: ·) hxs⟩
      next => exact hend h
    next => exact hend h

/-- A clause of a body stands in it. -/
theorem mem_texts_of_mem_all {body : List Char} {c : Clause} (h : c ∈ all body) :
    ∃ xs ∈ c.texts, xs <:+: body := by
  obtain ⟨before, cs, n, hs, hr⟩ := Text.exists_of_mem_findFrom h
  unfold read? at hr
  rw [Option.ite_none_left_eq_some] at hr
  obtain ⟨-, hr⟩ := hr
  split at hr
  next rest hd =>
    obtain ⟨⟨c', tail⟩, ha, he⟩ := Option.map_eq_some_iff.mp hr
    obtain ⟨rfl, -⟩ := Prod.mk.inj he
    obtain ⟨more, hm, xs, hx, hxs⟩ :=
      exists_named_of_afterPoint? (fun _ hc => absurd hc List.not_mem_nil) ha
    refine ⟨_, Language.append_mem_mul rfl (Language.append_mem_mul hm hx), ?_⟩
    have hrest : '.' :: (more ++ (xs ++ tail)) <:+ cs := by
      rw [hxs, ← hd]
      exact List.dropWhile_suffix _
    refine List.IsInfix.trans (List.IsPrefix.isInfix ⟨tail, ?_⟩) (hrest.trans hs).isInfix
    simp only [List.reverse_nil, List.nil_append, List.append_assoc]
    rfl
  next => cases hr

/-- A field is a word in lower case. -/
theorem exists_word_of_named {field : String} {xs : List Char} (h : xs ∈ named field) :
    (∃ name : Word, name.text = field) ∧ Text.lowerAscii field = field := by
  obtain ⟨⟨name, rfl⟩, rfl⟩ := h
  have hl : (Text.lowerAscii name.text).toList = name.text.toList.map Char.toLower :=
    String.toList_ofList
  have hn : (Text.lowerAscii name.text).toList ≠ [] := by
    simpa [hl] using name.ne_nil
  have hw : (Text.lowerAscii name.text).toList.all Text.isWord = true := by
    rw [hl, List.all_map]
    exact List.all_eq_true.mpr fun c hc =>
      (Text.isWord_toLower c).trans (List.all_eq_true.mp name.isWord c hc)
  rw [String.ofList_toList]
  exact ⟨⟨⟨_, hn, hw⟩, rfl⟩, Text.lowerAscii_lowerAscii _⟩

end Clause

/-! ## Words in any case -/

theorem isWord_of_mem_inAnyCase {word : String} (hw : word.toList.all Char.isAlpha = true)
    {xs : List Char} (hx : xs ∈ inAnyCase word) : ∀ c ∈ xs, Text.isWord c = true := by
  change List.Forall₂ _ word.toList xs at hx
  generalize word.toList = ws at hw hx
  induction hx with
  | nil => exact fun _ hc => absurd hc List.not_mem_nil
  | cons hm _ ih =>
    rw [List.all_cons, Bool.and_eq_true] at hw
    exact List.forall_mem_cons.mpr ⟨Text.isWord_of_matchesLetter hw.1 hm, ih hw.2⟩

/-- The words that introduce a statement have no letters with a third case. -/
theorem lowerAscii_of_mem_inAnyCase {effect : Effect} {xs : List Char}
    (hx : xs ∈ inAnyCase effect.name) : Text.lowerAscii (String.ofList xs) = effect.name := by
  have hl : ∀ w ∈ effect.name.toList, w ≠ 's' ∧ w ≠ 'k' :=
    Text.forall_mem_of_all (by cases effect <;> rfl)
  have hx : List.Forall₂ (fun w c => Text.matchesLetter w c = true) effect.name.toList xs := hx
  have hf : List.Forall₂ (fun w c => w = Char.toLower c) effect.name.toList xs := by
    refine ((List.forall₂_and_left _ _).mpr ⟨hl, hx⟩).imp fun w c h => ?_
    obtain ⟨⟨hs, hk⟩, hm⟩ := h
    simpa [Text.matchesLetter, hs, hk, eq_comm] using hm
  rw [← List.forall₂_map_right_iff (R := Eq), List.forall₂_eq_eq_eq] at hf
  rw [Text.lowerAscii, String.toList_ofList, ← hf, String.ofList_toList]

/-! ## Braces -/

/-- No text of a language has this character. -/
def Avoids (texts : Language Char) (c : Char) : Prop :=
  ∀ xs ∈ texts, c ∉ xs

theorem Avoids.mul {c : Char} {l l' : Language Char} (h : Avoids l c) (h' : Avoids l' c) :
    Avoids (l * l') c := by
  intro xs hx
  obtain ⟨ys, hy, zs, hz, rfl⟩ := Language.mem_mul.mp hx
  exact List.not_mem_append (h ys hy) (h' zs hz)

theorem avoids_exactly {c : Char} {symbol : String} (h : c ∉ symbol.toList) :
    Avoids (exactly symbol) c := by
  rintro xs rfl
  exact h

theorem avoids_inAnyCase {c : Char} (hw : Text.isWord c = false) {word : String}
    (ha : word.toList.all Char.isAlpha = true) : Avoids (inAnyCase word) c := by
  intro xs hx hm
  rw [isWord_of_mem_inAnyCase ha hx c hm] at hw
  cases hw

section

variable {c : Char} (hb : Text.isBlank c = false)

include hb

theorem avoids_blanks : Avoids blanks c := by
  intro xs hx hm
  rw [hx c hm] at hb
  cases hb

theorem avoids_mark {symbol : String} (h : c ∉ symbol.toList) : Avoids (mark symbol) c :=
  (avoids_blanks hb).mul (avoids_exactly h)

variable (hw : Text.isWord c = false)

include hw

theorem avoids_spaced {word : String} (ha : word.toList.all Char.isAlpha = true) :
    Avoids (spaced word) c :=
  (avoids_blanks hb).mul (avoids_inAnyCase hw ha)

namespace Statement

variable (hc : c ∉ "(),=:\"".toList)

include hc

omit hw in
theorem avoids_punctuation {symbol : String} (hs : symbol.toList ⊆ "(),=:\"".toList) :
    Avoids (mark symbol) c ∧ Avoids (exactly symbol) c :=
  ⟨avoids_mark hb fun h => hc (hs h), avoids_exactly fun h => hc (hs h)⟩

theorem avoids_said (action : String) : Avoids (said action) c := by
  have hp {symbol : String} (hs : symbol.toList ⊆ "(),=:\"".toList) :=
    avoids_punctuation hb hc hs
  have hcomma : Avoids (mark ",") c := (hp (by decide)).1
  rintro xs (⟨-, hx⟩ | ⟨⟨verb, rfl⟩, hx⟩)
  · exact hcomma xs hx
  · have hverb : Avoids (exactly verb.text) c := avoids_exactly (verb.not_mem hw)
    have hquoted : Avoids (exactly "::\"" * (exactly verb.text * exactly "\"")) c :=
      (hp (by decide)).2.mul (hverb.mul (hp (by decide)).2)
    have hcomparison : Avoids (comparison verb.text) c :=
      (hp (by decide)).1.mul ((avoids_spaced hb hw rfl).mul hquoted)
    exact hcomparison.mul hcomma xs hx

/-- A statement has few other symbols before its body. -/
theorem avoids_opening (effect : Effect) (action : String) :
    Avoids (opening effect action) c := by
  have hmark (symbol : String) (hs : symbol.toList ⊆ "(),=:\"".toList) :
      Avoids (mark symbol) c := (avoids_punctuation hb hc hs).1
  have hword (word : String) (ha : word.toList.all Char.isAlpha = true) :
      Avoids (spaced word) c := avoids_spaced hb hw ha
  have heffect : Avoids (inAnyCase effect.name) c :=
    avoids_inAnyCase hw (by cases effect <;> rfl)
  have htail := (hword "resource" rfl).mul ((hmark ")" (by decide)).mul (hword "when" rfl))
  have hsaid := (hword "action" rfl).mul ((avoids_said hb hw hc action).mul htail)
  have hfront := (hword "principal" rfl).mul ((hmark "," (by decide)).mul hsaid)
  exact heffect.mul ((hmark "(" (by decide)).mul hfront)

end Statement

end

/-! ## Rules -/

/-- All of a rule is written in its source: it starts with the effect, and between its braces
stands a clause with the field, the operator and the value. -/
structure Rule.Grounded (r : Rule) : Prop where
  keyword : ∃ word rest, r.source.toList = word ++ rest ∧
    Text.lowerAscii (String.ofList word) = r.effect.name
  ends : r.source.toList.getLast? = some ';'
  brace : r.source.toList.count '}' = 1
  action : r.action = "*" ∨ ∃ verb : Word, verb.text = r.action
  field : (∃ name : Word, name.text = r.field) ∧ Text.lowerAscii r.field = r.field
  value : ∀ s, r.value = .text s → '"' ∉ s.toList ∧ '}' ∉ s.toList
  condition : ∃ front body back c xs, r.source.toList = front ++ '{' :: (body ++ '}' :: back) ∧
    '{' ∉ front ∧ xs <:+: body ∧ xs ∈ Clause.texts c ∧
      c.field = r.field ∧ Operator.ofToken? c.token = some r.operator ∧ c.value = r.value

namespace Statement

/-- The parts of a statement around its braces. -/
theorem exists_of_mem_texts {s : Statement} (h : s.source.toList ∈ s.texts) :
    ∃ opened ∈ opening s.effect s.action, ∃ gap ∈ blanks, ∃ gap' ∈ blanks, '}' ∉ s.body ∧
      s.source.toList = opened ++ gap ++ '{' :: (s.body ++ '}' :: (gap' ++ [';'])) := by
  obtain ⟨opened, ho, _, ⟨_, ⟨gap, hg, _, rfl, rfl⟩, _, ⟨_, ⟨hb, rfl⟩, _, ⟨gap', hg', _, rfl, rfl⟩,
    rfl⟩, rfl⟩, he⟩ := h
  refine ⟨opened, ho, gap, hg, gap', hg', hb, ?_⟩
  rw [← he]
  simp

theorem exists_of_mem_opening {effect : Effect} {action : String} {xs : List Char}
    (h : xs ∈ opening effect action) :
    (∃ word ∈ inAnyCase effect.name, word <+: xs) ∧
      (action = "*" ∨ ∃ verb : Word, verb.text = action) := by
  obtain ⟨word, hw, _, ⟨_, -, _, ⟨_, -, _, ⟨_, -, _, ⟨_, -, _, ⟨_, hs, _, -, rfl⟩, rfl⟩, rfl⟩, rfl⟩,
    rfl⟩, rfl⟩ := h
  refine ⟨⟨word, hw, List.prefix_append ..⟩, ?_⟩
  rcases hs with ⟨ha, -⟩ | ⟨hv, -⟩
  · exact .inl ha
  · exact .inr hv

/-- The rules of a statement of a policy are grounded. -/
theorem grounded_of_mem_rules {text : String} {s : Statement}
    (hs : s ∈ all (stripComments text.toList)) {r : Rule} (h : r ∈ s.rules) : r.Grounded := by
  obtain ⟨opened, ho, gap, hg, gap', hg', hbody, hsource⟩ :=
    exists_of_mem_texts (source_of_mem_all hs).1
  obtain ⟨⟨word, hw, rest, rfl⟩, haction⟩ := exists_of_mem_opening ho
  have hvalue (t : String) (ht : r.value = .text t) : '"' ∉ t.toList ∧ '}' ∉ t.toList :=
    not_mem_value_of_read (List.mem_flatMap.mpr ⟨s, hs, h⟩) ht
  obtain ⟨c, hc, hr⟩ := List.mem_filterMap.mp h
  obtain ⟨operator, hoperator, rfl⟩ := Option.map_eq_some_iff.mp hr
  obtain ⟨xs, hx, hi⟩ := Clause.mem_texts_of_mem_all hc
  have hfront {x : Char} (hb : Text.isBlank x = false) (hn : Text.isWord x = false)
      (hp : x ∉ "(),=:\"".toList) : x ∉ word ++ rest ++ gap :=
    List.not_mem_append (avoids_opening hb hn hp _ _ _ ho) (avoids_blanks hb _ hg)
  have hopen : '{' ∉ word ++ rest ++ gap := hfront (by decide) (by decide) (by decide)
  have hclose : '}' ∉ word ++ rest ++ gap := hfront (by decide) (by decide) (by decide)
  have hback : '}' ∉ gap' ++ [';'] :=
    List.not_mem_append (avoids_blanks (by decide) _ hg') (by decide)
  exact
    { keyword := by
        refine ⟨word, rest ++ (gap ++ '{' :: (s.body ++ '}' :: (gap' ++ [';']))), ?_,
          lowerAscii_of_mem_inAnyCase hw⟩
        rw [hsource]
        simp only [List.append_assoc]
      ends := by
        rw [hsource]
        simp only [List.getLast?_append, List.getLast?_cons]
        rfl
      brace := by
        rw [hsource, List.count_append, List.count_eq_zero_of_not_mem hclose,
          List.count_cons_of_ne (by decide), List.count_append,
          List.count_eq_zero_of_not_mem hbody, List.count_cons_self,
          List.count_eq_zero_of_not_mem hback]
      action := haction
      field := by
        obtain ⟨_, -, _, ⟨name, hn, _⟩, -⟩ := hx
        exact Clause.exists_word_of_named hn
      value := hvalue
      condition := ⟨_, _, _, c, xs, hsource, hopen, hi, hx, rfl, hoperator, rfl⟩ }

end Statement

/-- **Provenance.** Whatever the text, its rules are those of its statements in turn. The
sources of the statements stand in the text without its comments from left to right, without
overlap, and every rule is grounded in the source of its statement. -/
theorem read_grounded (text : String) :
    read text = (Statement.all (stripComments text.toList)).flatMap Statement.rules ∧
      Text.InTurn ((Statement.all (stripComments text.toList)).map fun s => s.source.toList)
        (stripComments text.toList) ∧
      ∀ s ∈ Statement.all (stripComments text.toList), s.source ≠ "" ∧
        ∀ r ∈ s.rules, r.source = s.source ∧ r.effect = s.effect ∧ r.Grounded := by
  refine ⟨rfl, Text.inTurn_findFrom ?_ none _, fun s hs => ⟨?_, fun r hr => ?_⟩⟩
  · intro before cs s n h
    obtain ⟨ht, hp, hn⟩ := Statement.source_of_read? h
    exact ⟨Statement.source_ne_nil ht, hp, hn⟩
  · intro he
    refine Statement.source_ne_nil (Statement.source_of_mem_all hs).1 ?_
    rw [he]
    rfl
  · obtain ⟨c, -, hc⟩ := List.mem_filterMap.mp hr
    obtain ⟨operator, -, rfl⟩ := Option.map_eq_some_iff.mp hc
    exact ⟨rfl, rfl, Statement.grounded_of_mem_rules hs hr⟩

/-- A statement in capitals with two clauses, a comment before it and rubbish after it. -/
def scribbledText : String :=
  "// permit (\nPERMIT(principal, action == Action::\"http\", resource) when " ++
    "\x7b x.Risk >= 7 && y.Name contains \"//\" \x7d ; oops"

theorem grounded_scribbledText :
    (read scribbledText).map Rule.condition = ["risk >= 7", "name contains \"//\""] ∧
      ∀ r ∈ read scribbledText, r.Grounded := by
  obtain ⟨hr, -, hs⟩ := read_grounded scribbledText
  refine ⟨by decide +kernel, fun r hm => ?_⟩
  rw [hr] at hm
  obtain ⟨s, hsm, hrs⟩ := List.mem_flatMap.mp hm
  exact ((hs s hsm).2 r hrs).2.2

end PolicyGuard.Policy
