import Mathlib.Computability.Language
import PolicyGuard.Proofs.Statement

/-!
The texts of statements, as a language.

A reader of a part accepts a language if it takes the texts of that language from the front
of what it is given, and no others, and leaves what follows (`Accepts`). So what a statement
is read from does not depend on what stands around it.

* `Takes.then`: one part after the other;
* `accepts_word`, `accepts_spaced`, `accepts_mark`: words and symbols;
* `effect?_eq_some_iff`, `verb?_eq_some_iff`, `said_eq_some_iff`, `enclosed_iff`: the parts
  that say something;
* `takes_spells`: all parts of a statement;
* `head?_eq_some_iff`: a statement is read from its texts, and from no others;
* `source_of_mem_all`, `all_source`: a statement of a text stands in it, and is the only
  statement of its source.
-/

namespace PolicyGuard

theorem Text.toNat_of_isAlpha {c : Char} (h : c.isAlpha = true) :
    (65 ≤ c.toNat ∧ c.toNat ≤ 90) ∨ (97 ≤ c.toNat ∧ c.toNat ≤ 122) := by
  rcases (Bool.or_eq_true _ _).mp h with hu | hl
  · obtain ⟨hf, ht⟩ := of_decide_eq_true hu
    exact .inl ⟨UInt32.le_iff_toNat_le.mp hf, UInt32.le_iff_toNat_le.mp ht⟩
  · obtain ⟨hf, ht⟩ := (Bool.and_eq_true _ _).mp hl
    exact .inr ⟨UInt32.le_iff_toNat_le.mp (of_decide_eq_true hf),
      UInt32.le_iff_toNat_le.mp (of_decide_eq_true ht)⟩

namespace Policy

/-! ## Parts -/

/-- From one text to what is left of it, exactly the texts of a language are taken. -/
def Takes (step : List Char → List Char → Prop) (texts : Language Char) : Prop :=
  ∀ cs rest, step cs rest ↔ ∃ xs ∈ texts, xs ++ rest = cs

/-- Takes the texts of a language from the front, and no others, whatever follows. -/
def Accepts (part? : List Char → Option (List Char)) (texts : Language Char) : Prop :=
  ∀ cs rest, part? cs = some rest ↔ ∃ xs ∈ texts, xs ++ rest = cs

def blanks : Language Char :=
  {xs | ∀ c ∈ xs, Text.isBlank c = true}

def exactly (symbol : String) : Language Char :=
  {xs | xs = symbol.toList}

/-- A word with each letter in any case. -/
def inAnyCase (word : String) : Language Char :=
  {xs | List.Forall₂ (fun w c => Text.matchesLetter w c = true) word.toList xs}

/-- Texts that start with something that is no blank. -/
def Visible (texts : Language Char) : Prop :=
  ∀ xs ∈ texts, ∃ c tail, xs = c :: tail ∧ Text.isBlank c = false

/-- One part after the other. -/
theorem Takes.then {first second : List Char → List Char → Prop} {l l' : Language Char}
    (h : Takes first l) (h' : Takes second l') :
    Takes (fun cs rest => ∃ mid, first cs mid ∧ second mid rest) (l * l') := by
  intro cs rest
  constructor
  · rintro ⟨mid, hf, hs⟩
    obtain ⟨xs, hx, rfl⟩ := (h _ _).mp hf
    obtain ⟨ys, hy, rfl⟩ := (h' _ _).mp hs
    exact ⟨_, Language.append_mem_mul hx hy, List.append_assoc ..⟩
  · rintro ⟨_, ⟨xs, hx, ys, hy, rfl⟩, rfl⟩
    exact ⟨_, (h _ _).mpr ⟨xs, hx, (List.append_assoc ..).symm⟩, (h' _ _).mpr ⟨ys, hy, rfl⟩⟩

theorem accepts_exactly (symbol : String) :
    Accepts (Text.after? symbol.toList) (exactly symbol) := by
  intro cs rest
  rw [Text.after?_eq_some_iff]
  constructor
  · intro hc
    exact ⟨_, rfl, hc⟩
  · rintro ⟨_, rfl, hc⟩
    exact hc

theorem accepts_word (word : String) : Accepts (Statement.word? word) (inAnyCase word) := by
  intro cs rest
  simp only [Statement.word?, Option.map_eq_some_iff, Prod.exists, Clause.afterWord?_eq_some_iff]
  constructor
  · rintro ⟨written, rest', ⟨hw, rfl⟩, rfl⟩
    exact ⟨written, hw, rfl⟩
  · rintro ⟨written, hw, rfl⟩
    exact ⟨written, rest, ⟨hw, rfl⟩, rfl⟩

theorem exists_blanks (cs : List Char) : ∃ gap ∈ blanks, gap ++ Text.skipBlanks cs = cs :=
  ⟨_, List.all_eq_true.mp List.all_takeWhile, List.takeWhile_append_dropWhile⟩

/-- Blanks come before a part that starts with none. -/
theorem Accepts.spaced {part? : List Char → Option (List Char)} {texts : Language Char}
    (h : Accepts part? texts) (hv : Visible texts) :
    Accepts (fun cs => part? (Text.skipBlanks cs)) (blanks * texts) := by
  intro cs rest
  constructor
  · intro hp
    obtain ⟨xs, hx, he⟩ := (h _ _).mp hp
    obtain ⟨gap, hg, hcs⟩ := exists_blanks cs
    refine ⟨_, Language.append_mem_mul hg hx, ?_⟩
    rw [List.append_assoc, he, hcs]
  · rintro ⟨ys, hy, rfl⟩
    obtain ⟨bs, hb, xs, hx, rfl⟩ := Language.mem_mul.mp hy
    obtain ⟨c, tail, rfl, hc⟩ := hv xs hx
    have hs : Text.skipBlanks (bs ++ c :: tail ++ rest) = c :: tail ++ rest := by
      rw [List.append_assoc, List.cons_append]
      exact Text.dropWhile_stop hb hc _
    exact (h _ _).mpr ⟨_, hx, hs.symm⟩

theorem visible_exactly {symbol : String} (h : symbol.toList.head?.any (!Text.isBlank ·) = true) :
    Visible (exactly symbol) := by
  rintro xs rfl
  obtain ⟨c, hc, hb⟩ := (Option.any_eq_true _ _).mp h
  obtain ⟨tail, ht⟩ := List.head?_eq_some_iff.mp hc
  exact ⟨c, tail, ht, by simpa using hb⟩

/-- Blanks are no letters, in any case. -/
theorem isBlank_of_matchesLetter {w c : Char} (hw : w.isAlpha = true)
    (h : Text.matchesLetter w c = true) : Text.isBlank c = false := by
  refine Bool.eq_false_iff.mpr fun hb => ?_
  have hn : ¬ (65 ≤ c.toNat ∧ c.toNat ≤ 90) ∧ ¬ (97 ≤ c.toNat ∧ c.toNat ≤ 122) := by
    simp only [Text.isBlank, Bool.or_eq_true, Bool.and_eq_true, decide_eq_true_eq] at hb
    omega
  have hl : c.toLower = c :=
    dif_neg fun hc => hn.1 (hc.imp UInt32.le_iff_toNat_le.mp UInt32.le_iff_toNat_le.mp)
  simp only [Text.matchesLetter, hl, Bool.or_eq_true, Bool.and_eq_true, decide_eq_true_eq] at h
  rcases h with (rfl | ⟨-, rfl⟩) | ⟨-, rfl⟩
  · exact not_or_intro hn.1 hn.2 (Text.toNat_of_isAlpha hw)
  · exact absurd hb (by decide)
  · exact absurd hb (by decide)

theorem visible_inAnyCase {word : String} (h : word.toList.head?.any Char.isAlpha = true) :
    Visible (inAnyCase word) := by
  intro xs hx
  obtain ⟨w, hw, ha⟩ := (Option.any_eq_true _ _).mp h
  obtain ⟨ws, hws⟩ := List.head?_eq_some_iff.mp hw
  have hx : List.Forall₂ (fun w c => Text.matchesLetter w c = true) word.toList xs := hx
  rw [hws] at hx
  cases hx with
  | cons hc _ => exact ⟨_, _, rfl, isBlank_of_matchesLetter ha hc⟩

/-- A symbol after any blanks. -/
def mark (symbol : String) : Language Char :=
  blanks * exactly symbol

/-- A word in any case after any blanks. -/
def spaced (word : String) : Language Char :=
  blanks * inAnyCase word

theorem accepts_mark {symbol : String} (h : symbol.toList.head?.any (!Text.isBlank ·) = true) :
    Accepts (Statement.mark? symbol) (mark symbol) :=
  (accepts_exactly symbol).spaced (visible_exactly h)

theorem accepts_spaced {word : String} (h : word.toList.head?.any Char.isAlpha = true) :
    Accepts (fun cs => Statement.word? word (Text.skipBlanks cs)) (spaced word) :=
  (accepts_word word).spaced (visible_inAnyCase h)

namespace Statement

/-! ## Statements -/

/-- A comparison of the action with a verb. -/
def comparison (verb : String) : Language Char :=
  mark "==" * (spaced "action" * (exactly "::\"" * (exactly verb * exactly "\"")))

/-- What is said about the action, up to the comma: nothing, or which verb it is. -/
def said (action : String) : Language Char :=
  {xs | (action = "*" ∧ xs ∈ mark ",") ∨
    ((∃ verb : Word, verb.text = action) ∧ xs ∈ comparison action * mark ",")}

/-- A body and the brace that closes it. -/
def enclosed (body : List Char) : Language Char :=
  {xs | '}' ∉ body ∧ xs = body ++ ['}']}

/-- What comes before the brace that opens the body. -/
def opening (effect : Effect) (action : String) : Language Char :=
  inAnyCase effect.name * (mark "(" * (spaced "principal" * (mark "," * (spaced "action" *
    (said action * (spaced "resource" * (mark ")" * spaced "when")))))))

/-- The texts that a statement is written as. -/
def texts (s : Statement) : Language Char :=
  opening s.effect s.action * (mark "\x7b" * (enclosed s.body * mark ";"))

theorem effect?_eq_some_iff {cs rest : List Char} {effect : Effect} :
    effect? cs = some (effect, rest) ↔ ∃ xs ∈ inAnyCase effect.name, xs ++ rest = cs := by
  rw [← accepts_word effect.name cs rest]
  unfold effect?
  constructor
  · intro h
    split at h
    next rest' hf =>
      cases h
      exact hf
    next =>
      obtain ⟨rest', hp, he⟩ := Option.map_eq_some_iff.mp h
      cases he
      exact hp
  · intro h
    cases effect with
    | forbid =>
      have hf : word? "forbid" cs = some rest := h
      rw [hf]
    | permit =>
      have hp : word? "permit" cs = some rest := h
      -- a text that starts with one of the two words starts with no other
      obtain ⟨c, tail, rfl, hc⟩ := exists_of_word? (w := 'p') rfl hp
      have hn : word? "forbid" (c :: tail) = none := by
        have hl : c.toLower = 'p' := by
          simpa [Text.matchesLetter] using hc
        simp [word?, Clause.afterWord?, Text.matchesLetter, hl]
      rw [hn, hp]
      rfl

theorem verb?_eq_some_iff {cs rest : List Char} {verb : String} :
    verb? cs = some (verb, rest) ↔
      (∃ w : Word, w.text = verb) ∧ ∃ xs ∈ comparison verb, xs ++ rest = cs := by
  constructor
  · intro h
    simp only [verb?, Option.bind_eq_bind, Option.bind_eq_some_iff,
      Option.ite_none_left_eq_some] at h
    obtain ⟨r1, h1, r2, h2, r3, h3, r4, h4, hn, h⟩ := h
    cases h
    obtain ⟨xs, hx, rfl⟩ := (accepts_mark rfl _ _).mp h1
    obtain ⟨ys, hy, rfl⟩ := (accepts_spaced rfl _ _).mp h2
    obtain ⟨_, rfl, rfl⟩ := (accepts_exactly _ _ _).mp h3
    have hne : (String.ofList (r3.takeWhile Text.isWord)).toList ≠ [] := by
      simpa using hn
    have hall : (String.ofList (r3.takeWhile Text.isWord)).toList.all Text.isWord = true := by
      rw [String.toList_ofList]
      exact List.all_takeWhile
    have hw : (String.ofList (r3.takeWhile Text.isWord)).toList ++ '"' :: rest = r3 := by
      rw [String.toList_ofList, ← eq_cons_of_after? h4, List.takeWhile_append_dropWhile]
    refine ⟨⟨⟨_, hne, hall⟩, rfl⟩, _, Language.append_mem_mul hx (Language.append_mem_mul hy
      (Language.append_mem_mul rfl (Language.append_mem_mul rfl rfl))), ?_⟩
    simp only [List.append_assoc]
    exact congrArg (fun r => xs ++ (ys ++ ("::\"".toList ++ r))) hw
  · rintro ⟨⟨w, rfl⟩, _, h, rfl⟩
    obtain ⟨xs, hx, _, ⟨ys, hy, _, ⟨_, rfl, _, ⟨_, rfl, _, rfl, rfl⟩, rfl⟩, rfl⟩, rfl⟩ := h
    let named := w.text.toList ++ '"' :: rest
    have hq : Text.isWord '"' = false := by
      decide
    have hw : ∀ c ∈ w.text.toList, Text.isWord c = true := List.all_eq_true.mp w.isWord
    have ht : named.takeWhile Text.isWord = w.text.toList := Text.takeWhile_stop hw hq rest
    have hd : named.dropWhile Text.isWord = '"' :: rest := Text.dropWhile_stop hw hq rest
    have hn : w.text.toList.isEmpty = false := by
      simpa using w.ne_nil
    have hequals : mark? "==" (xs ++ (ys ++ ("::\"".toList ++ named))) =
        some (ys ++ ("::\"".toList ++ named)) := (accepts_mark rfl _ _).mpr ⟨xs, hx, rfl⟩
    have haction : word? "action" (Text.skipBlanks (ys ++ ("::\"".toList ++ named))) =
        some ("::\"".toList ++ named) := (accepts_spaced rfl _ _).mpr ⟨ys, hy, rfl⟩
    have hquote : Text.after? "::\"".toList ("::\"".toList ++ named) = some named :=
      (accepts_exactly _ _ _).mpr ⟨_, rfl, rfl⟩
    have hend : Text.after? ['"'] ('"' :: rest) = some rest := rfl
    have hcs : xs ++ (ys ++ ("::\"".toList ++ (w.text.toList ++ "\"".toList))) ++ rest =
        xs ++ (ys ++ ("::\"".toList ++ named)) := by
      simp only [List.append_assoc]
      rfl
    rw [hcs, verb?, hequals]
    simp only [Option.bind_eq_bind, Option.bind_some, haction, hquote, ht, hd, hend, hn,
      Bool.false_eq_true, ↓reduceIte, String.ofList_toList]

/-- The comma that follows decides whether something is said about the action. -/
theorem said_eq_some_iff {cs rest : List Char} {action : String} :
    ((verbOrAny cs).1 = action ∧ mark? "," (verbOrAny cs).2 = some rest) ↔
      ∃ xs ∈ said action, xs ++ rest = cs := by
  have hcomma : Accepts (mark? ",") (mark ",") := accepts_mark rfl
  constructor
  · rintro ⟨rfl, hm⟩
    obtain ⟨ys, hy, he⟩ := (hcomma _ _).mp hm
    unfold verbOrAny at he ⊢
    cases hv : verb? cs with
    | some found =>
      obtain ⟨hw, xs, hx, rfl⟩ := verb?_eq_some_iff.mp hv
      rw [hv] at he
      refine ⟨_, .inr ⟨hw, Language.append_mem_mul hx hy⟩, ?_⟩
      rw [List.append_assoc]
      exact congrArg (xs ++ ·) he
    | none =>
      rw [hv] at he
      exact ⟨ys, .inl ⟨rfl, hy⟩, he⟩
  · rintro ⟨ys, ⟨rfl, hy⟩ | ⟨hw, h⟩, rfl⟩
    · have hm := (hcomma _ rest).mpr ⟨ys, hy, rfl⟩
      -- a comma comes next, and no comparison starts with one
      have hn : verb? (ys ++ rest) = none := by
        rw [verb?, mark?, eq_cons_of_after? hm]
        rfl
      rw [verbOrAny, hn]
      exact ⟨rfl, hm⟩
    · obtain ⟨xs, hx, ys, hy, rfl⟩ := Language.mem_mul.mp h
      have hv : verb? (xs ++ ys ++ rest) = some (action, ys ++ rest) :=
        verb?_eq_some_iff.mpr ⟨hw, xs, hx, (List.append_assoc ..).symm⟩
      rw [verbOrAny, hv]
      exact ⟨rfl, (hcomma _ _).mpr ⟨ys, hy, rfl⟩⟩

theorem enclosed_iff {cs rest body : List Char} :
    (cs.takeWhile (· ≠ '}') = body ∧ Text.after? ['}'] (cs.dropWhile (· ≠ '}')) = some rest) ↔
      ∃ xs ∈ enclosed body, xs ++ rest = cs := by
  constructor
  · rintro ⟨rfl, ha⟩
    have hb : '}' ∉ cs.takeWhile (· ≠ '}') := fun hm => by
      simpa using List.all_eq_true.mp List.all_takeWhile _ hm
    refine ⟨_, ⟨hb, rfl⟩, ?_⟩
    rw [List.append_assoc, List.singleton_append, ← eq_cons_of_after? ha,
      List.takeWhile_append_dropWhile]
  · rintro ⟨_, ⟨hb, rfl⟩, rfl⟩
    rw [List.append_assoc, List.singleton_append]
    rw [Text.takeWhile_stop (Text.passes_of_not_mem hb) (by decide),
      Text.dropWhile_stop (Text.passes_of_not_mem hb) (by decide)]
    exact ⟨rfl, rfl⟩

/-- The parts of a statement from the front of a text, one after the other. -/
def Spells (s : Statement) (cs rest : List Char) : Prop :=
  ∃ r1, effect? cs = some (s.effect, r1) ∧ ∃ r2, mark? "(" r1 = some r2 ∧
    ∃ r3, word? "principal" (Text.skipBlanks r2) = some r3 ∧ ∃ r4, mark? "," r3 = some r4 ∧
    ∃ r5, word? "action" (Text.skipBlanks r4) = some r5 ∧
    ∃ r6, ((verbOrAny r5).1 = s.action ∧ mark? "," (verbOrAny r5).2 = some r6) ∧
    ∃ r7, word? "resource" (Text.skipBlanks r6) = some r7 ∧ ∃ r8, mark? ")" r7 = some r8 ∧
    ∃ r9, word? "when" (Text.skipBlanks r8) = some r9 ∧ ∃ r10, mark? "\x7b" r9 = some r10 ∧
    ∃ r11, (r10.takeWhile (· ≠ '}') = s.body ∧
      Text.after? ['}'] (r10.dropWhile (· ≠ '}')) = some r11) ∧ mark? ";" r11 = some rest

theorem takes_spells (s : Statement) : Takes s.Spells s.texts := by
  have heffect : Takes (fun cs rest => effect? cs = some (s.effect, rest))
      (inAnyCase s.effect.name) := fun _ _ => effect?_eq_some_iff
  have hsaid : Takes (fun cs rest => (verbOrAny cs).1 = s.action ∧
      mark? "," (verbOrAny cs).2 = some rest) (said s.action) := fun _ _ => said_eq_some_iff
  have henclosed : Takes (fun cs rest => cs.takeWhile (· ≠ '}') = s.body ∧
      Text.after? ['}'] (cs.dropWhile (· ≠ '}')) = some rest) (enclosed s.body) :=
    fun _ _ => enclosed_iff
  have hmark (symbol : String) (h : symbol.toList.head?.any (!Text.isBlank ·) = true) :
      Takes (fun cs rest => mark? symbol cs = some rest) (mark symbol) := accepts_mark h
  have hword (word : String) (h : word.toList.head?.any Char.isAlpha = true) :
      Takes (fun cs rest => word? word (Text.skipBlanks cs) = some rest) (spaced word) :=
    accepts_spaced h
  have hbody := (hmark "\x7b" rfl).then (henclosed.then (hmark ";" rfl))
  have htail := (hword "resource" rfl).then ((hmark ")" rfl).then ((hword "when" rfl).then hbody))
  have hfront := (hmark "," rfl).then ((hword "action" rfl).then (hsaid.then htail))
  simp only [texts, opening, mul_assoc]
  exact heffect.then ((hmark "(" rfl).then ((hword "principal" rfl).then hfront))

/-- What is read as a statement has its parts, and is its source. -/
theorem head?_eq_some_iff_spells {cs rest : List Char} {s : Statement} :
    head? cs = some (s, rest) ↔
      s.Spells cs rest ∧ s.source = String.ofList (cs.take (cs.length - rest.length)) := by
  constructor
  · intro h
    unfold head? at h
    simp only [Option.bind_eq_bind, Option.bind_eq_some_iff] at h
    obtain ⟨⟨effect, r1⟩, h1, r2, h2, r3, h3, r4, h4, r5, h5, r6, h6, r7, h7, r8, h8, r9, h9, r10,
      h10, r11, h11, r12, h12, h⟩ := h
    cases h
    exact ⟨⟨r1, h1, r2, h2, r3, h3, r4, h4, r5, h5, r6, ⟨rfl, h6⟩, r7, h7, r8, h8, r9, h9, r10, h10,
      r11, ⟨rfl, h11⟩, h12⟩, rfl⟩
  · obtain ⟨effect, action, body, source⟩ := s
    rintro ⟨⟨r1, h1, r2, h2, r3, h3, r4, h4, r5, h5, r6, ⟨ha, h6⟩, r7, h7, r8, h8, r9, h9, r10, h10,
      r11, ⟨hb, h11⟩, h12⟩, hs⟩
    have hverb : (verb? r5).getD ("*", r5) = (action, (verbOrAny r5).2) := Prod.ext ha rfl
    simp only [head?, Option.bind_eq_bind, Option.bind_some, h1, h2, h3, h4, h5, hverb, h6, h7, h8,
      h9, h10, hb, h11, h12, ← hs, Option.pure_def]

/-- A statement is read from its texts, which are its source, and from no others. -/
theorem head?_eq_some_iff {cs rest : List Char} {s : Statement} :
    head? cs = some (s, rest) ↔ s.source.toList ∈ s.texts ∧ s.source.toList ++ rest = cs := by
  rw [head?_eq_some_iff_spells, takes_spells]
  constructor
  · rintro ⟨⟨xs, hx, rfl⟩, hs⟩
    rw [Text.length_taken, List.take_left] at hs
    rw [hs, String.toList_ofList]
    exact ⟨hx, rfl⟩
  · rintro ⟨hx, rfl⟩
    rw [Text.length_taken, List.take_left, String.ofList_toList]
    exact ⟨⟨_, hx, rfl⟩, rfl⟩

/-- A statement is read from its source, which is what the reader takes. -/
theorem source_of_read? {before : Option Char} {cs : List Char} {s : Statement} {n : Nat}
    (h : read? before cs = some (s, n)) :
    s.source.toList ∈ s.texts ∧ s.source.toList <+: cs ∧ n = s.source.toList.length := by
  obtain ⟨-, rest, hh, rfl⟩ := exists_of_read? h
  obtain ⟨hs, rfl⟩ := head?_eq_some_iff.mp hh
  exact ⟨hs, List.prefix_append .., Text.length_taken ..⟩

theorem source_ne_nil {s : Statement} (hs : s.source.toList ∈ s.texts) : s.source.toList ≠ [] := by
  intro hn
  have hh : head? [] = some (s, []) := head?_eq_some_iff.mpr ⟨hs, by rw [hn]; rfl⟩
  cases hh

/-- A statement of a text stands in it. -/
theorem source_of_mem_all {cs : List Char} {s : Statement} (h : s ∈ all cs) :
    s.source.toList ∈ s.texts ∧ s.source.toList <:+: cs := by
  obtain ⟨_, ds, _, hd, hr⟩ := Text.exists_of_mem_findFrom h
  obtain ⟨hs, hp, -⟩ := source_of_read? hr
  exact ⟨hs, hp.isInfix.trans hd.isInfix⟩

/-- A text of a statement, by itself, is this statement and nothing else. -/
theorem all_source {s : Statement} (hs : s.source.toList ∈ s.texts) :
    all s.source.toList = [s] := by
  have hh : head? (s.source.toList ++ []) = some (s, []) := head?_eq_some_iff.mpr ⟨hs, rfl⟩
  have hr : read? none (s.source.toList ++ []) = some (s, s.source.toList.length) := by
    simp only [read?, Option.any_none, Bool.false_eq_true, ↓reduceIte, hh, Option.map_some,
      Text.length_taken]
  have hf := Text.findFrom_found (source_ne_nil hs) hr
  rwa [List.append_nil] at hf

end Statement

end Policy

end PolicyGuard
