import Mathlib.Data.List.Forall2
import PolicyGuard.Policy.Printer
import PolicyGuard.Proofs.Scan

/-!
Conditions that are written are the clauses that are read.

* `comparison?_comparing`: an operator and a value read back, as whatever the value is read as;
* `read?_conditionWith`, `read?_conditionOf`: a condition reads back as one clause;
* `all_body`: a body of conditions reads back as their clauses;
* `exists_value?_of_mem_all`: the value of a clause stands in the body.
-/

namespace PolicyGuard.Policy.Clause

theorem value?_quoted {v : List Char} (hv : '"' ∉ v) (rest : List Char) :
    value? ('"' :: (v ++ '"' :: rest)) = some (.text (String.ofList v), rest) := by
  have hd : (v ++ '"' :: rest).dropWhile (· ≠ '"') = '"' :: rest :=
    Text.dropWhile_stop (Text.passes_of_not_mem hv) (by decide) rest
  have ht : (v ++ '"' :: rest).takeWhile (· ≠ '"') = v :=
    Text.takeWhile_stop (Text.passes_of_not_mem hv) (by decide) rest
  simp only [value?, hd, ht]

theorem value?_inQuotes {v : String} (hv : '"' ∉ v.toList) (rest : List Char) :
    value? ('"' :: (v.toList ++ ['"']) ++ rest) = some (.text v, rest) := by
  have hq := value?_quoted hv rest
  rw [String.ofList_toList] at hq
  rw [List.cons_append, List.append_assoc]
  exact hq

/-- An operator and a value as it is written. -/
def comparing (op : Operator) (value : List Char) : List Char :=
  ' ' :: (op.token.toList ++ ' ' :: value)

/-- What stands between a field and what follows the value. -/
def written (op : Operator) (v : List Char) : List Char :=
  ' ' :: (op.token.toList ++ ' ' :: '"' :: (v ++ ['"']))

/-- A value does not start with a blank. -/
theorem skipBlanks_of_value? {cs : List Char} {found : Value × List Char}
    (h : value? cs = some found) : Text.skipBlanks cs = cs := by
  cases cs with
  | nil => rfl
  | cons c cs =>
    refine List.dropWhile_cons_of_neg fun hb => ?_
    have hq : c ≠ '"' := by
      rintro rfl
      exact absurd hb (by decide)
    have hc : endsBare c = true := by
      simp [endsBare, hb]
    simp [value?, hq, hc] at h

theorem comparison?_comparing (op : Operator) {value rest : List Char} {v : Value}
    (hv : value? (value ++ rest) = some (v, rest)) :
    comparison? (comparing op value ++ rest) = some (op.token, v, rest) := by
  have hs : (value ++ rest).dropWhile Text.isBlank = value ++ rest := skipBlanks_of_value? hv
  cases op <;>
    simp [comparing, comparison?, operators, symbol?, wordOperator?, afterWord?, Operator.token,
      Text.after?, List.findSome?, Text.skipBlanks, Text.isBlank, Text.matchesLetter, Text.isWord,
      Text.isAsciiWord, hs, hv]

theorem read?_of_not_isWord {c : Char} (hc : Text.isWord c = false) (before : Option Char)
    (cs : List Char) : read? before (c :: cs) = none := by
  simp [read?, hc]

/-- The longest field that leaves a comparison is a word with a blank after it. -/
theorem afterPoint?_word {w taken rest : List Char} {found : Clause × List Char}
    (hw : ∀ c ∈ w, Text.isWord c = true)
    (hf : endingHere? (w.reverse ++ taken) (' ' :: rest) = some found) :
    afterPoint? taken (w ++ ' ' :: rest) = some found := by
  induction w generalizing taken with
  | nil =>
    have hb : Text.isWord ' ' = false := by
      decide
    simpa [afterPoint?, hb] using hf
  | cons c cs ih =>
    have hr : afterPoint? (c :: taken) (cs ++ ' ' :: rest) = some found := by
      apply ih (fun d hd => hw d (List.mem_cons_of_mem _ hd))
      simpa using hf
    simp [afterPoint?, hw c (List.mem_cons_self ..), hr]

/-- A condition on a field of `owner`, with a value as it is written. -/
def conditionWith (owner : Word) (field : String) (op : Operator) (value : List Char) : List Char :=
  owner.text.toList ++ '.' :: (field.toList ++ comparing op value)

/-- A condition on a field of `owner` as it is written, with a value in quotes. -/
def conditionOf (owner : Word) (field : String) (op : Operator) (v : String) : List Char :=
  owner.text.toList ++ '.' :: (field.toList ++ written op v.toList)

theorem conditionOf_eq (owner : Word) (field : String) (op : Operator) (v : String) :
    conditionOf owner field op v = conditionWith owner field op ('"' :: (v.toList ++ ['"'])) := by
  rfl

theorem conditionWith_append (owner : Word) (field : String) (op : Operator)
    (value more : List Char) :
    conditionWith owner field op value ++ more = conditionWith owner field op (value ++ more) := by
  simp [conditionWith, comparing]

/-- The word that stands for a component. -/
def resource : Word :=
  ⟨"resource", by decide, by decide⟩

/-- A condition on a field as it is written, with a value in quotes. -/
def condition (field : String) (op : Operator) (v : String) : List Char :=
  "resource.".toList ++ (field.toList ++ written op v.toList)

theorem condition_eq (field : String) (op : Operator) (v : String) :
    condition field op v = conditionOf resource field op v := by
  rfl

section

variable (field : Word) (op : Operator) {value rest : List Char} {v : Value}
  (hv : value? (value ++ rest) = some (v, rest))

include hv

theorem endingHere?_comparing :
    endingHere? field.text.toList.reverse (comparing op value ++ rest) =
      some (⟨Text.lowerAscii field.text, op.token, v⟩, rest) := by
  have hn : field.text.toList.reverse.isEmpty = false := by
    simpa using field.ne_nil
  rw [endingHere?, hn, comparison?_comparing op hv]
  simp

theorem afterPoint?_comparing :
    afterPoint? [] (field.text.toList ++ (comparing op value ++ rest)) =
      some (⟨Text.lowerAscii field.text, op.token, v⟩, rest) := by
  have hf := endingHere?_comparing field op hv
  rw [← List.append_nil field.text.toList.reverse] at hf
  exact afterPoint?_word (List.all_eq_true.mp field.isWord) hf

/-- A condition is one clause wherever a word can start, with whatever the value is read as. -/
theorem read?_conditionWith (owner : Word) (before : Option Char)
    (hb : before.any Text.isWord = false) :
    read? before (conditionWith owner field.text op value ++ rest) =
      some (⟨Text.lowerAscii field.text, op.token, v⟩,
        (conditionWith owner field.text op value).length) := by
  let after := field.text.toList ++ (comparing op value ++ rest)
  have hc : conditionWith owner field.text op value ++ rest =
      owner.text.toList ++ '.' :: after := by
    unfold conditionWith
    rw [List.append_assoc, List.cons_append, List.append_assoc]
  have hl := Text.length_taken (conditionWith owner field.text op value) rest
  have hw : ∀ c ∈ owner.text.toList, Text.isWord c = true := List.all_eq_true.mp owner.isWord
  have hp : Text.isWord '.' = false := by
    decide
  have ht : ((conditionWith owner field.text op value ++ rest).takeWhile Text.isWord).isEmpty =
      false := by
    rw [hc, Text.takeWhile_stop hw hp]
    simpa using owner.ne_nil
  have hd : (conditionWith owner field.text op value ++ rest).dropWhile Text.isWord =
      '.' :: after := by
    rw [hc, Text.dropWhile_stop hw hp]
  unfold read?
  rw [hb, ht, hd]
  simp only [Bool.or_self, Bool.false_eq_true, ↓reduceIte, after, afterPoint?_comparing field op hv,
    Option.map_some, hl]

end

/-- A condition with a value in quotes is one clause wherever a word can start, whatever
follows. -/
theorem read?_conditionOf (field : Word) (op : Operator) {v : String} (hv : '"' ∉ v.toList)
    (owner : Word) (before : Option Char) (hb : before.any Text.isWord = false)
    (rest : List Char) :
    read? before (conditionOf owner field.text op v ++ rest) =
      some (⟨Text.lowerAscii field.text, op.token, .text v⟩,
        (conditionOf owner field.text op v).length) := by
  rw [conditionOf_eq]
  exact read?_conditionWith field op (value?_inQuotes hv rest) owner before hb

/-! ## Values -/

theorem afterWord?_eq_some_iff {word cs written rest : List Char} :
    afterWord? word cs = some (written, rest) ↔
      List.Forall₂ (fun w c => Text.matchesLetter w c = true) word written ∧
        written ++ rest = cs := by
  induction word generalizing cs written with
  | nil =>
    constructor
    · intro h
      cases h
      exact ⟨.nil, rfl⟩
    · rintro ⟨h, rfl⟩
      cases h
      rfl
  | cons w ws ih =>
    cases cs with
    | nil =>
      refine ⟨fun h => by simp [afterWord?] at h, ?_⟩
      rintro ⟨h, he⟩
      cases h
      cases he
    | cons c cs =>
      simp only [afterWord?, Option.ite_none_right_eq_some, Option.map_eq_some_iff,
        Prod.exists, Prod.mk.injEq]
      constructor
      · rintro ⟨hc, written', rest', hw, rfl, rfl⟩
        obtain ⟨hf, rfl⟩ := ih.mp hw
        exact ⟨.cons hc hf, rfl⟩
      · rintro ⟨h, he⟩
        cases h with
        | cons hc hw =>
          cases he
          exact ⟨hc, _, rest, ih.mpr ⟨hw, rfl⟩, rfl, rfl⟩

/-- What an operator takes is its token. -/
theorem append_of_operator {operator? : List Char → Option (List Char × List Char)}
    (ho : operator? ∈ operators) {cs token rest : List Char}
    (h : operator? cs = some (token, rest)) : token ++ rest = cs := by
  have hs (symbol : String) (h : symbol? symbol cs = some (token, rest)) :
      token ++ rest = cs := by
    obtain ⟨rest', hr, he⟩ := Option.map_eq_some_iff.mp h
    cases he
    exact Text.after?_eq_some_iff.mp hr
  have hw (word : String) (h : wordOperator? word cs = some (token, rest)) :
      token ++ rest = cs := by
    unfold wordOperator? at h
    split at h
    next hr =>
      rw [Option.ite_none_left_eq_some] at h
      cases h.2
      exact (afterWord?_eq_some_iff.mp hr).2
    next => cases h
  simp only [operators, List.mem_cons, List.not_mem_nil, or_false] at ho
  rcases ho with rfl | rfl | rfl | rfl | rfl | rfl | rfl | rfl | rfl
  iterate 6 exact hs _ h
  iterate 3 exact hw _ h

/-- A text value is written as it is, without a quote in it. -/
theorem text_of_value? {cs rest : List Char} {s : String}
    (h : value? cs = some (.text s, rest)) : '"' ∉ s.toList ∧ s.toList ⊆ cs := by
  unfold value? at h
  split at h
  next tail =>
    split at h
    next =>
      obtain ⟨rfl, -⟩ : s = String.ofList (tail.takeWhile (· ≠ '"')) ∧ _ := by
        simpa [eq_comm] using h
      rw [String.toList_ofList]
      refine ⟨fun hq => ?_, fun c hc => ?_⟩
      · simpa using List.all_eq_true.mp List.all_takeWhile _ hq
      · exact List.mem_cons_of_mem _ ((List.takeWhile_prefix _).subset hc)
    next => cases h
  next =>
    simp only [Option.ite_none_left_eq_some, Option.some.injEq, Prod.mk.injEq] at h
    obtain ⟨-, hv, -⟩ := h
    obtain rfl : s = String.ofList (cs.takeWhile (!endsBare ·)) := by
      unfold Value.ofToken at hv
      split at hv
      · cases hv
      · split at hv
        · cases hv
        · exact (Value.text.inj hv).symm
    rw [String.toList_ofList]
    refine ⟨fun hq => ?_, (List.takeWhile_prefix _).subset⟩
    simpa [endsBare] using List.all_eq_true.mp List.all_takeWhile _ hq

theorem exists_value?_of_comparison? {cs rest : List Char} {token : String} {v : Value}
    (h : comparison? cs = some (token, v, rest)) :
    ∃ ds, ds <:+ cs ∧ value? ds = some (v, rest) := by
  obtain ⟨operator?, ho, hv⟩ := List.exists_of_findSome?_eq_some h
  simp only [Option.bind_eq_bind, Option.bind_eq_some_iff] at hv
  obtain ⟨found, hf, ⟨v', rest'⟩, hv, he⟩ := hv
  cases he
  refine ⟨_, ?_, hv⟩
  have hs : found.2 <:+ cs :=
    List.IsSuffix.trans ⟨found.1, append_of_operator ho hf⟩ (List.dropWhile_suffix _)
  exact (List.dropWhile_suffix _).trans hs

theorem exists_comparison?_of_endingHere? {taken cs : List Char} {found : Clause × List Char}
    (h : endingHere? taken cs = some found) :
    ∃ token, comparison? cs = some (token, found.1.value, found.2) := by
  simp only [endingHere?, Option.ite_none_left_eq_some, Option.map_eq_some_iff] at h
  obtain ⟨-, ⟨token, v, rest⟩, hc, rfl⟩ := h
  exact ⟨token, hc⟩

theorem exists_comparison?_of_afterPoint? {taken cs : List Char} {found : Clause × List Char}
    (h : afterPoint? taken cs = some found) :
    ∃ ds token, ds <:+ cs ∧ comparison? ds = some (token, found.1.value, found.2) := by
  induction cs generalizing taken with
  | nil => simp [afterPoint?] at h
  | cons c rest ih =>
    have hc (h : endingHere? taken (c :: rest) = some found) :
        ∃ ds token, ds <:+ c :: rest ∧ comparison? ds = some (token, found.1.value, found.2) := by
      obtain ⟨token, ht⟩ := exists_comparison?_of_endingHere? h
      exact ⟨c :: rest, token, List.suffix_rfl, ht⟩
    unfold afterPoint? at h
    split at h
    next =>
      split at h
      next found' hf =>
        obtain rfl := Option.some.inj h
        obtain ⟨ds, token, hs, ht⟩ := ih hf
        exact ⟨ds, token, hs.trans (List.suffix_cons c rest), ht⟩
      next => exact hc h
    next => exact hc h

/-- The value of a clause stands in the text of the clause. -/
theorem exists_value?_of_mem_all {body : List Char} {clause : Clause} (h : clause ∈ all body) :
    ∃ ds rest, ds <:+ body ∧ value? ds = some (clause.value, rest) := by
  obtain ⟨before, cs, n, hs, hr⟩ := Text.exists_of_mem_findFrom h
  unfold read? at hr
  rw [Option.ite_none_left_eq_some] at hr
  obtain ⟨-, hr⟩ := hr
  split at hr
  next rest hd =>
    obtain ⟨⟨clause', tail⟩, ha, he⟩ := Option.map_eq_some_iff.mp hr
    obtain ⟨rfl, -⟩ := Prod.mk.inj he
    obtain ⟨ds, token, hs', hc⟩ := exists_comparison?_of_afterPoint? ha
    obtain ⟨es, hs'', hv⟩ := exists_value?_of_comparison? hc
    refine ⟨es, tail, ?_, hv⟩
    have hrest : rest <:+ cs := by
      refine (List.suffix_cons '.' rest).trans ?_
      rw [← hd]
      exact List.dropWhile_suffix _
    exact hs''.trans (hs'.trans (hrest.trans hs))
  next => cases hr

end PolicyGuard.Policy.Clause

namespace PolicyGuard.Policy.Draft.Condition

/-- The condition as it is written. -/
def chars (c : Condition) : List Char :=
  "resource.".toList ++ (c.field.text.toList ++ Clause.written c.operator c.value.toList)

/-- The condition as it is read. -/
def clause (c : Condition) : Clause :=
  ⟨c.field.text, c.operator.token, .text c.value⟩

theorem read?_chars (c : Condition) (before : Option Char) (hb : before.any Text.isWord = false)
    (rest : List Char) :
    Clause.read? before (c.chars ++ rest) = some (c.clause, c.chars.length) := by
  have hr := Clause.read?_conditionOf c.field c.operator c.unquoted Clause.resource before hb rest
  rw [c.lower] at hr
  exact hr

theorem chars_ne_nil (c : Condition) : c.chars ≠ [] :=
  List.cons_ne_nil _ _

/-- What stands between two conditions starts no clause. -/
theorem read?_separator (before : Option Char) (x : Char) (hx : x ∈ " && ".toList)
    (cs : List Char) : Clause.read? before (x :: cs) = none := by
  have hw : " && ".toList.all (!Text.isWord ·) = true := by
    decide
  have hn : Text.isWord x = false := by
    simpa using List.all_eq_true.mp hw x hx
  exact Clause.read?_of_not_isWord hn before cs

/-- The conditions between the braces of a statement. -/
def body (cs : List Condition) : List Char :=
  ' ' :: (" && ".toList.intercalate (cs.map chars) ++ [' '])

theorem all_body (cs : List Condition) : Clause.all (body cs) = cs.map clause := by
  have hb : Text.isWord ' ' = false := by
    decide
  have hr (before : Option Char) (rest : List Char) :
      Text.findFrom Clause.read? 0 before (' ' :: rest) =
        Text.findFrom Clause.read? 0 (some ' ') rest := by
    rw [Text.findFrom, Clause.read?_of_not_isWord hb]
  have hs (before : Option Char) :
      (Text.preceding before " && ".toList).any Text.isWord = false := by
    exact hb
  have hf : (some ' ').any Text.isWord = false := hb
  rw [Clause.all, Text.findAll, body, hr,
    Text.findFrom_intercalate read?_separator hs chars_ne_nil read?_chars cs hf, hr]
  exact List.append_nil _

end PolicyGuard.Policy.Draft.Condition
