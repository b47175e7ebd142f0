import PolicyGuard.Policy.Decision

/-!
Exact matches under lower case.

The lower case of a part is not always a part of the lower case: a capital sigma becomes `ς`
where it ends a word and `σ` elsewhere. So a text that stands in an attribute exactly as a rule
has it is found exactly as far as its sigmas end words there as they do in the text alone.

* `lowerWithin_eq_iff`: two contexts give a text one lower case when its sigmas are alike in them;
* `isPrefix_lower_iff`, `isSuffix_lower_iff`, `isInfix_lower`: parts of a text in lower case;
* `appliesTo_of_exact`: rules about texts that an attribute has exactly.
-/

namespace PolicyGuard.Text

/-! ## Lower case in a context -/

/-- Whether a word ends between two texts, of which the first is given in reverse. -/
def endsWord (before rest : List Char) : Bool :=
  casedAhead before && !casedAhead rest

/-- Lower case of one character in its context. -/
def lowerIn (before : List Char) (c : Char) (rest : List Char) : List Char :=
  if c = 'Σ' then [if endsWord before rest then 'ς' else 'σ']
  else if c = 'İ' then ['i', '\u0307']
  else [lowerChar c]

/-- Lower case of a text between two others, of which the first is given in reverse. -/
def lowerWithin (before : List Char) : List Char → List Char → List Char
  | [], _ => []
  | c :: cs, after => lowerIn before c (cs ++ after) ++ lowerWithin (c :: before) cs after

/-- The capital sigmas of a text end words in one context exactly if they do in the other. -/
def SigmasAlike (cs before after before' after' : List Char) : Prop :=
  ∀ front back, cs = front ++ 'Σ' :: back →
    endsWord (front.reverse ++ before) (back ++ after) =
      endsWord (front.reverse ++ before') (back ++ after')

theorem lowerAfter_append (before cs after : List Char) :
    lowerAfter before (cs ++ after) =
      lowerWithin before cs after ++ lowerAfter (cs.reverse ++ before) after := by
  induction cs generalizing before with
  | nil => rfl
  | cons c cs ih =>
    have hc : lowerAfter before (c :: cs ++ after) =
        lowerIn before c (cs ++ after) ++ lowerAfter (c :: before) (cs ++ after) := rfl
    rw [hc, ih, lowerWithin, List.append_assoc, List.reverse_cons, List.append_assoc]
    rfl

theorem lowerAfter_eq (before cs : List Char) :
    lowerAfter before cs = lowerWithin before cs [] := by
  have h := lowerAfter_append before cs []
  rwa [List.append_nil, lowerAfter, List.append_nil] at h

theorem length_lowerIn (before before' : List Char) (c : Char) (rest rest' : List Char) :
    (lowerIn before c rest).length = (lowerIn before' c rest').length := by
  unfold lowerIn
  split
  · rfl
  · rfl

theorem length_lowerWithin (before before' cs after after' : List Char) :
    (lowerWithin before cs after).length = (lowerWithin before' cs after').length := by
  induction cs generalizing before before' with
  | nil => rfl
  | cons c cs ih =>
    rw [lowerWithin, lowerWithin, List.length_append, List.length_append,
      length_lowerIn before before' c (cs ++ after) (cs ++ after'), ih]

theorem lowerIn_eq_iff {before before' rest rest' : List Char} {c : Char} :
    lowerIn before c rest = lowerIn before' c rest' ↔
      (c = 'Σ' → endsWord before rest = endsWord before' rest') := by
  unfold lowerIn
  by_cases hc : c = 'Σ'
  · simp only [hc, ↓reduceIte, List.cons.injEq, and_true, true_imp_iff]
    cases endsWord before rest <;> cases endsWord before' rest' <;> decide
  · simp [hc]

/-- The lower case of a text is the same in two contexts exactly if its sigmas are alike. -/
theorem lowerWithin_eq_iff {cs before before' after after' : List Char} :
    lowerWithin before cs after = lowerWithin before' cs after' ↔
      SigmasAlike cs before after before' after' := by
  induction cs generalizing before before' with
  | nil => simp [lowerWithin, SigmasAlike]
  | cons c cs ih =>
    have hl := length_lowerIn before before' c (cs ++ after) (cs ++ after')
    have hsplit : lowerWithin before (c :: cs) after = lowerWithin before' (c :: cs) after' ↔
        lowerIn before c (cs ++ after) = lowerIn before' c (cs ++ after') ∧
          lowerWithin (c :: before) cs after = lowerWithin (c :: before') cs after' :=
      ⟨fun h => List.append_inj h hl, fun ⟨h, h'⟩ => by rw [lowerWithin, h, h', lowerWithin]⟩
    rw [hsplit, lowerIn_eq_iff, ih]
    constructor
    · rintro ⟨hc, hcs⟩ front back he
      cases front with
      | nil =>
        cases he
        exact hc rfl
      | cons d front =>
        cases he
        simpa using hcs front back rfl
    · intro h
      refine ⟨fun hc => ?_, fun front back he => ?_⟩
      · exact h [] cs (congrArg (· :: cs) hc)
      · simpa using h (c :: front) back (congrArg (c :: ·) he)

/-! ## Parts of a text -/

/-- The capital sigmas of `t` end words between `u` and `v` exactly if they do in `t` alone. -/
def SigmasStay (u t v : List Char) : Prop :=
  SigmasAlike t u.reverse v [] []

theorem sigmasStay_of_not_mem {u t v : List Char} (h : 'Σ' ∉ t) : SigmasStay u t v := by
  rintro front back rfl
  exact absurd (List.mem_append_right front List.mem_cons_self) h

theorem occursIn_iff {part cs : List Char} : occursIn part cs = true ↔ part <:+: cs := by
  induction cs with
  | nil => simp [occursIn]
  | cons c cs ih => simp [occursIn, ih, List.infix_cons_iff]

variable {u t v : List Char}

theorem isPrefix_lower_iff :
    lowerAfter [] t <+: lowerAfter [] (t ++ v) ↔ SigmasStay [] t v := by
  have hl := length_lowerWithin [] [] t v []
  rw [lowerAfter_append, lowerAfter_eq [] t, SigmasStay, List.reverse_nil, ← lowerWithin_eq_iff]
  constructor
  · intro h
    have hp := List.prefix_of_prefix_length_le (List.prefix_append _ _) h (Nat.le_of_eq hl)
    exact hp.eq_of_length hl
  · intro h
    rw [h]
    exact List.prefix_append _ _

theorem isSuffix_lower_iff :
    lowerAfter [] t <:+ lowerAfter [] (u ++ t) ↔ SigmasStay u t [] := by
  have hl := length_lowerWithin u.reverse [] t [] []
  rw [lowerAfter_append, List.append_nil, lowerAfter_eq [] t, lowerAfter_eq u.reverse t,
    SigmasStay, ← lowerWithin_eq_iff]
  constructor
  · intro h
    have hp := List.suffix_of_suffix_length_le (List.suffix_append _ _) h (Nat.le_of_eq hl)
    exact hp.eq_of_length hl
  · intro h
    rw [h]
    exact List.suffix_append _ _

theorem isInfix_lower (h : SigmasStay u t v) :
    lowerAfter [] t <:+: lowerAfter [] (u ++ (t ++ v)) := by
  have he := lowerWithin_eq_iff.mpr h
  rw [lowerAfter_append, lowerAfter_append, List.append_nil, he, ← lowerAfter_eq]
  exact List.infix_append' _ _ _

end PolicyGuard.Text

namespace PolicyGuard.Policy

variable {r : Rule} {s : Subject} {t a : String}

theorem appliesTo_text (hf : r.field ≠ "severity") (hv : r.value = .text t)
    (ha : s.get? r.field = some (.text a)) :
    r.appliesTo s = r.operator.holdsOfText (Text.lowerAfter [] a.toList)
      (Text.lowerAfter [] t.toList) := by
  have hl (x : String) : (Text.lower x).toList = Text.lowerAfter [] x.toList :=
    String.toList_ofList
  rw [Rule.appliesTo, ha, Option.any_some, Rule.accepts, if_neg hf, hv]
  simp only [Value.asText, hl]

/-- **Exact matches.** A rule about a text that the attribute has exactly as the rule writes it
matches at the start or at the end if and only if the capital sigmas of the text end words there
as they do in the text alone, and anywhere if they do so at one place; a text without capital
sigmas is always found. The text itself is always equal, and never unequal. -/
theorem appliesTo_of_exact (hf : r.field ≠ "severity") (hv : r.value = .text t)
    (ha : s.get? r.field = some (.text a)) :
    (r.operator = .startsWith → ∀ v, a.toList = t.toList ++ v →
      (r.appliesTo s = true ↔ Text.SigmasStay [] t.toList v)) ∧
    (r.operator = .endsWith → ∀ u, a.toList = u ++ t.toList →
      (r.appliesTo s = true ↔ Text.SigmasStay u t.toList [])) ∧
    (r.operator = .contains → ∀ u v, a.toList = u ++ (t.toList ++ v) →
      Text.SigmasStay u t.toList v → r.appliesTo s = true) ∧
    ('Σ' ∉ t.toList → (r.operator = .startsWith ∧ t.toList <+: a.toList ∨
      r.operator = .endsWith ∧ t.toList <:+ a.toList ∨
      r.operator = .contains ∧ t.toList <:+: a.toList) → r.appliesTo s = true) ∧
    (a = t → (r.operator = .equals → r.appliesTo s = true) ∧
      (r.operator = .notEquals → r.appliesTo s = false)) := by
  have hr := appliesTo_text hf hv ha
  have hstart (ho : r.operator = .startsWith) (v : List Char) (he : a.toList = t.toList ++ v) :
      r.appliesTo s = true ↔ Text.SigmasStay [] t.toList v := by
    rw [hr, ho, he, ← Text.isPrefix_lower_iff]
    exact List.isPrefixOf_iff_prefix
  have hend (ho : r.operator = .endsWith) (u : List Char) (he : a.toList = u ++ t.toList) :
      r.appliesTo s = true ↔ Text.SigmasStay u t.toList [] := by
    rw [hr, ho, he, ← Text.isSuffix_lower_iff]
    exact List.isSuffixOf_iff_suffix
  have hin (ho : r.operator = .contains) (u v : List Char)
      (he : a.toList = u ++ (t.toList ++ v)) (hs : Text.SigmasStay u t.toList v) :
      r.appliesTo s = true := by
    rw [hr, ho, he]
    exact Text.occursIn_iff.mpr (Text.isInfix_lower hs)
  refine ⟨hstart, hend, hin, ?_, ?_⟩
  · rintro hn (⟨ho, v, he⟩ | ⟨ho, u, he⟩ | ⟨ho, u, v, he⟩)
    · exact (hstart ho v he.symm).mpr (Text.sigmasStay_of_not_mem hn)
    · exact (hend ho u he.symm).mpr (Text.sigmasStay_of_not_mem hn)
    · rw [List.append_assoc] at he
      exact hin ho u v he.symm (Text.sigmasStay_of_not_mem hn)
  · rintro rfl
    refine ⟨fun ho => ?_, fun ho => ?_⟩
    · rw [hr, ho]
      exact decide_eq_true rfl
    · rw [hr, ho]
      exact decide_eq_false (not_not_intro rfl)

/-- A forbid that compares the name with a Greek word in capitals. -/
def streetRule (operator : Operator) : Rule :=
  ⟨.forbid, "*", "name", operator, .text "ΟΔΟΣ", ""⟩

def onStreet (name : String) : Subject :=
  Table.ofList [("name", .text name)]

/-- The word by itself and before a number. -/
theorem exact_streetName :
    (streetRule .startsWith).field ≠ "severity" ∧
      (streetRule .startsWith).value = .text "ΟΔΟΣ" ∧
      (onStreet "ΟΔΟΣ 1").get? "name" = some (.text "ΟΔΟΣ 1") ∧
      (streetRule .startsWith).appliesTo (onStreet "ΟΔΟΣ 1") = true ∧
      (streetRule .endsWith).appliesTo (onStreet "ΟΔΟΣ") = true ∧
      (streetRule .contains).appliesTo (onStreet "3, ΟΔΟΣ 1") = true ∧
      (streetRule .equals).appliesTo (onStreet "ΟΔΟΣ") = true := by
  have hf : "name" ≠ "severity" := by
    decide
  have hfound (operator : Operator) (name : String) :=
    appliesTo_of_exact (r := streetRule operator) (s := onStreet name) hf rfl rfl
  obtain ⟨hstart, -⟩ := hfound .startsWith "ΟΔΟΣ 1"
  obtain ⟨-, hend, -⟩ := hfound .endsWith "ΟΔΟΣ"
  obtain ⟨-, -, hin, -⟩ := hfound .contains "3, ΟΔΟΣ 1"
  obtain ⟨-, -, -, -, heq⟩ := hfound .equals "ΟΔΟΣ"
  refine ⟨hf, rfl, rfl, ?_, ?_, ?_, (heq rfl).1 rfl⟩
  · exact (hstart rfl " 1".toList rfl).mpr (Text.lowerWithin_eq_iff.mp (by decide +kernel))
  · exact (hend rfl [] rfl).mpr (Text.lowerWithin_eq_iff.mp (by decide +kernel))
  · exact hin rfl "3, ".toList " 1".toList rfl (Text.lowerWithin_eq_iff.mp (by decide +kernel))

/-- Not every exact match is found: the word goes on with a letter here, so its last sigma is
no longer the end of a word. -/
theorem lost_streetName :
    ¬ ∀ (r : Rule) (s : Subject) (t a : String), r.field ≠ "severity" → r.value = .text t →
      s.get? r.field = some (.text a) →
      (r.operator = .contains → t.toList <:+: a.toList → r.appliesTo s = true) ∧
      (r.operator = .startsWith → t.toList <+: a.toList → r.appliesTo s = true) ∧
      (r.operator = .endsWith → t.toList <:+ a.toList → r.appliesTo s = true) ∧
      (a = t → (r.operator = .equals → r.appliesTo s = true) ∧
        (r.operator = .notEquals → r.appliesTo s = false)) := by
  intro h
  obtain ⟨-, hstart, -⟩ :=
    h (streetRule .startsWith) (onStreet "ΟΔΟΣΑ") "ΟΔΟΣ" "ΟΔΟΣΑ" (by decide) rfl rfl
  exact absurd (hstart rfl (by decide)) (by decide +kernel)

end PolicyGuard.Policy
