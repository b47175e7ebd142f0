import PolicyGuard.Policy.Decision
import PolicyGuard.Proofs.ClosingBrace
import PolicyGuard.Proofs.Lowercase
import PolicyGuard.Proofs.Numeral

/-!
Values without quotes, and subjects that have them.

A token without quotes is a number if it spells one, and else a text. A subject that has the very
token for an attribute is equal to it, by rank, by order or by text. The exception is what spells
no number at all: it is not equal to itself, except as the label of a severity.

* `Token`: a text that can be written as a value without quotes;
* `read_forbidToken`: the policy with such a value has one rule, on this value;
* `severityRank_of_startsNumber`: what starts as a number does is no label of a severity;
* `forbidToken_iff`: which tokens are equal to themselves.
-/

namespace PolicyGuard.Policy

/-! ## Tokens -/

/-- A text that can be written as a value without quotes. -/
structure Token where
  text : String
  ne_nil : text.toList ≠ []
  isBare : ∀ c ∈ text.toList, Clause.endsBare c = false
  uncommented : ¬ "//".toList <:+: text.toList

namespace Token

theorem not_mem (v : Token) {c : Char} (hc : Clause.endsBare c = true) : c ∉ v.text.toList := by
  intro hm
  rw [v.isBare c hm] at hc
  cases hc

theorem not_isBlank (v : Token) : ∀ c ∈ v.text.toList, Text.isBlank c = false := by
  intro c hc
  have hb := v.isBare c hc
  simp only [Clause.endsBare, Bool.or_eq_false_iff] at hb
  exact hb.1.1.1.1.1.1

/-- A token that is not the last thing in a body is a value. -/
theorem value?_text (v : Token) {c : Char} (hc : Clause.endsBare c = true) (rest : List Char) :
    Clause.value? (v.text.toList ++ c :: rest) = some (.ofToken v.text.toList, c :: rest) := by
  have hbare : ∀ d ∈ v.text.toList, (!Clause.endsBare d) = true :=
    fun d hd => by rw [v.isBare d hd]; rfl
  have hstop : (!Clause.endsBare c) = false := by
    rw [hc]
    rfl
  have ht : (v.text.toList ++ c :: rest).takeWhile (!Clause.endsBare ·) = v.text.toList :=
    Text.takeWhile_stop hbare hstop rest
  have hd : (v.text.toList ++ c :: rest).dropWhile (!Clause.endsBare ·) = c :: rest :=
    Text.dropWhile_stop hbare hstop rest
  have hempty : v.text.toList.isEmpty = false := List.isEmpty_eq_false_iff.mpr v.ne_nil
  obtain ⟨d, ds, hds⟩ := List.exists_cons_of_ne_nil v.ne_nil
  have hquote : d ≠ '"' := by
    rintro rfl
    exact v.not_mem (by decide) (hds ▸ List.mem_cons_self)
  unfold Clause.value?
  split
  next h =>
    rw [hds, List.cons_append] at h
    exact absurd (List.cons.inj h).1 hquote
  next => simp only [ht, hd, hempty, Bool.false_eq_true, if_false]

end Token

/-- A text without quotes and without two slashes in a row stays as it is, if a blank follows. -/
theorem verbatim_spaced {xs : List Char} (hq : '"' ∉ xs) (hs : ¬ "//".toList <:+: xs) :
    Verbatim (xs ++ [' ']) := by
  intro rest
  induction xs with
  | nil => exact verbatim_plain (by decide) (by decide) rest
  | cons c cs ih =>
    rw [List.mem_cons, not_or] at hq
    have hslash : c = '/' → (cs ++ [' '] ++ rest).head? ≠ some '/' := by
      rintro rfl hhead
      cases cs with
      | nil => exact absurd hhead (by simp)
      | cons d ds =>
        obtain rfl : d = '/' := Option.some.inj hhead
        exact hs (List.prefix_append "//".toList ds).isInfix
    have htail : ¬ "//".toList <:+: cs :=
      fun hi => hs (hi.trans (List.suffix_cons c cs).isInfix)
    rw [List.cons_append, List.cons_append, stripFrom_code_cons hslash,
      if_neg (Ne.symm hq.1), ih hq.2 htail, List.cons_append]

/-! ## The rule of a token -/

/-- The policy that forbids an attribute of a component to compare so with a token. -/
def forbidToken (field : Word) (op : Operator) (v : Token) : String :=
  printStatement .forbid none ["resource." ++ field.text ++ " " ++ op.token ++ " " ++ v.text]

/-- The rule of this policy: its field is in lower case. -/
def ruleToken (field : Word) (op : Operator) (v : Token) : Rule :=
  ⟨.forbid, "*", Text.lowerAscii field.text, op, .ofToken v.text.toList, forbidToken field op v⟩

theorem read_forbidToken (field : Word) (op : Operator) (v : Token) :
    read (forbidToken field op v) = [ruleToken field op v] := by
  have hkept : Verbatim (v.text.toList ++ [' ']) :=
    verbatim_spaced (v.not_mem (by decide)) v.uncommented
  refine read_conditionWith .forbid Clause.resource field op (v.value?_text (by decide) []) hkept
    (v.not_mem (by decide)) ?_
  have hcond : ("resource." ++ field.text ++ " " ++ op.token ++ " " ++ v.text).toList =
      Clause.conditionWith Clause.resource field.text op v.text.toList := by
    simp [Clause.conditionWith, Clause.comparing, Clause.resource]
  have hp := Statement.toList_printStatement .forbid none
    ["resource." ++ field.text ++ " " ++ op.token ++ " " ++ v.text]
  rw [List.map_singleton, List.intercalate_singleton, hcond] at hp
  exact hp

/-! ## Equality with itself -/

/-- The labels of severities that have a rank. -/
def rankedLabels : List String :=
  ["critical", "high", "medium", "low"]

theorem severityRank_of_not_mem {s : String}
    (h : Text.lowerAscii (Text.trim s) ∉ rankedLabels) : severityRank s = 0 := by
  simp only [rankedLabels, List.mem_cons, List.not_mem_nil, or_false, not_or] at h
  unfold severityRank
  split
  next hl => exact absurd hl h.1
  next hl => exact absurd hl h.2.1
  next hl => exact absurd hl h.2.2.1
  next hl => exact absurd hl h.2.2.2
  next => rfl

/-- What starts a number is no blank, and starts no label with a rank. -/
theorem of_startsNumber {c : Char} (h : startsNumber c = true) :
    Text.isBlank c = false ∧ ∀ label ∈ rankedLabels, label.toList.head? ≠ some c.toLower := by
  have hall : ∀ n < 128, startsNumber (Char.ofNat n) = true →
      Text.isBlank (Char.ofNat n) = false ∧
        ∀ label ∈ rankedLabels, label.toList.head? ≠ some (Char.ofNat n).toLower := by
    decide
  have hlt : c.toNat < 128 := by
    by_contra hn
    have hlower : c.toLower = c := Text.toLower_of_lt (by omega)
    have hstart : ∀ d ∈ ['+', '-', '.', 'i', 'n'], d.toNat < 128 :=
      Text.forall_mem_of_all (by decide)
    rw [startsNumber, hlower, Bool.or_eq_true, List.contains_iff_mem] at h
    rcases h with hdigit | hm
    · have hle : c.toNat ≤ 57 := (Char.isDigit_iff_toNat.mp hdigit).2
      omega
    · exact hn (hstart c hm)
  have hc := hall c.toNat hlt
  rw [Char.ofNat_toNat] at hc
  exact hc h

theorem severityRank_of_startsNumber {s : String} {c : Char} {rest : List Char}
    (hs : s.toList = c :: rest) (hc : startsNumber c = true) : severityRank s = 0 := by
  obtain ⟨hblank, hlabel⟩ := of_startsNumber hc
  have hfront : Text.skipBlanks s.toList = c :: rest := by
    rw [hs]
    exact List.dropWhile_cons_of_neg (by rw [hblank]; decide)
  have hback : Text.skipBlanks (c :: rest).reverse = Text.skipBlanks rest.reverse ++ [c] := by
    rw [List.reverse_cons]
    refine Text.dropWhile_append_stop (fun d hd => ?_) rest.reverse
    obtain rfl : c = d := Option.some.inj hd
    exact hblank
  have hhead : (Text.lowerAscii (Text.trim s)).toList.head? = some c.toLower := by
    rw [Text.lowerAscii, Text.trim, Text.trimChars, hfront, hback, String.toList_ofList,
      String.toList_ofList, List.reverse_append]
    rfl
  exact severityRank_of_not_mem fun hm => hlabel _ hm hhead

/-- Whether a value is a number, it has the same rank as its token. -/
theorem severityRank_ofToken (v : Token) :
    severityRank (Value.ofToken v.text.toList).asText = severityRank v.text := by
  have hnumber : ∀ {x y : Binary64}, Binary64.read? v.text.toList = some x →
      severityRank (Value.number y).asText = severityRank v.text := by
    intro x y hx
    obtain ⟨c, rest, ht, hc⟩ := startsNumber_of_read? hx
    obtain ⟨d, rest', hp, hd⟩ := startsNumber_plain y
    rw [Value.asText, severityRank_of_startsNumber ht hc, severityRank_of_startsNumber hp hd]
  unfold Value.ofToken
  split
  next i hi =>
    obtain ⟨x, hx, -⟩ := compare?_of_readInt64? hi
    exact hnumber hx
  next =>
    split
    next x hx => exact hnumber hx
    next => rw [Value.asText, String.ofList_toList]

theorem trimChars_text (v : Token) : Text.trimChars v.text.toList = v.text.toList := by
  have hskip : ∀ {cs : List Char}, (∀ c ∈ cs, Text.isBlank c = false) →
      Text.skipBlanks cs = cs := by
    intro cs hc
    refine List.dropWhile_eq_self_iff.mpr fun hl => ?_
    rw [hc _ (List.getElem_mem hl)]
    decide
  have hback : ∀ c ∈ v.text.toList.reverse, Text.isBlank c = false :=
    fun c hc => v.not_isBlank c (List.mem_reverse.mp hc)
  rw [Text.trimChars, hskip v.not_isBlank, hskip hback, List.reverse_reverse]

/-- A token that is a number is read as one from a text too, and the two are equal unless it spells
no number. -/
theorem compare?_ofToken (v : Token) {target : Binary64}
    (h : Value.ofToken v.text.toList = .number target) :
    ∃ x, (Value.text v.text).number? = some x ∧
      (x.compare? target = some .eq ↔ ¬SpellsNan v.text.toList) := by
  have hread : (Value.text v.text).number? = Binary64.read? v.text.toList := by
    rw [Value.number?, trimChars_text]
  rw [hread]
  unfold Value.ofToken at h
  split at h
  next i hi =>
    obtain rfl := Value.number.inj h
    obtain ⟨x, hx, heq⟩ := compare?_of_readInt64? hi
    refine ⟨x, hx, iff_of_true heq fun hn => ?_⟩
    rw [Binary64.read?_eq_nan_iff.mpr hn] at hx
    obtain rfl := Option.some.inj hx
    rw [Binary64.nan_compare?] at heq
    cases heq
  next =>
    split at h
    next x hx =>
      obtain rfl := Value.number.inj h
      refine ⟨x, hx, ?_⟩
      rw [← Binary64.read?_eq_nan_iff, hx]
      by_cases hn : x = .nan
      · subst hn
        exact iff_of_false (by simp [Binary64.nan_compare?]) (not_not_intro rfl)
      · exact iff_of_true (Binary64.compare?_self hn) fun h => hn (Option.some.inj h)
    next => cases h

/-- The token is not equal to itself as an attribute of this name. -/
def Unequal (field : String) (v : Token) : Prop :=
  field ≠ "severity" ∧ SpellsNan v.text.toList

instance (field : String) (v : Token) : Decidable (Unequal field v) :=
  inferInstanceAs (Decidable (_ ∧ _))

theorem Operator.holds_of_equality {op : Operator} (hop : op ∈ [equals, notEquals])
    (order : Option Ordering) :
    op.holds order = op.holds (if order = some .eq then some .eq else none) := by
  simp only [List.mem_cons, List.not_mem_nil, or_false] at hop
  rcases hop with rfl | rfl <;> by_cases h : order = some .eq <;> simp [holds, h]

theorem Operator.holdsOfText_self {op : Operator} (hop : op ∈ [equals, notEquals])
    (cs : List Char) : op.holdsOfText cs cs = op.holds (some .eq) := by
  simp only [List.mem_cons, List.not_mem_nil, or_false] at hop
  rcases hop with rfl | rfl <;> simp [holdsOfText, holds]

theorem not_spellsNan_of_text {v : Token} {s : String}
    (h : Value.ofToken v.text.toList = .text s) : ¬SpellsNan v.text.toList ∧ s = v.text := by
  unfold Value.ofToken at h
  split at h
  next => cases h
  next =>
    split at h
    next => cases h
    next hread =>
      rw [String.ofList_toList] at h
      refine ⟨fun hn => ?_, (Value.text.inj h).symm⟩
      rw [Binary64.read?_eq_nan_iff.mpr hn] at hread
      cases hread

theorem accepts_ruleToken (field : Word) {op : Operator}
    (hop : op ∈ [Operator.equals, .notEquals]) (v : Token) :
    (ruleToken field op v).accepts (.text v.text) =
      op.holds (if Unequal (Text.lowerAscii field.text) v then none else some .eq) := by
  by_cases hfield : Text.lowerAscii field.text = "severity"
  · have hu : ¬Unequal (Text.lowerAscii field.text) v := fun h => h.1 hfield
    have hrank : compare (severityRank (Value.text v.text).asText)
        (severityRank (Value.ofToken v.text.toList).asText) = .eq := by
      rw [severityRank_ofToken]
      exact Std.ReflCmp.compare_self
    rw [if_neg hu, Rule.accepts, ruleToken]
    dsimp only
    rw [if_pos hfield, hrank]
  · have hu : Unequal (Text.lowerAscii field.text) v ↔ SpellsNan v.text.toList :=
      and_iff_right hfield
    rw [Rule.accepts, ruleToken]
    dsimp only
    rw [if_neg hfield]
    cases hvalue : Value.ofToken v.text.toList with
    | number target =>
      obtain ⟨x, hx, heq⟩ := compare?_ofToken v hvalue
      simp only [hx, Operator.holds_of_equality hop (x.compare? target), heq, hu]
      by_cases hn : SpellsNan v.text.toList
      · rw [if_neg (not_not_intro hn), if_pos hn]
      · rw [if_pos hn, if_neg hn]
    | text target =>
      obtain ⟨hn, rfl⟩ := not_spellsNan_of_text hvalue
      rw [if_neg (mt hu.mp hn)]
      exact Operator.holdsOfText_self hop _

/-- **Values without quotes.** For every field without capitals and every token, the policy that
forbids the field to be equal to the token has one rule, and so has the one that forbids it to be
different. On a subject that has the very token for this attribute the first rule applies and the
second does not, unless the token spells no number; then it is the other way round, except for a
severity, which is compared as a label. -/
theorem forbidToken_iff (field : Word) (hf : Text.lowerAscii field.text = field.text) (v : Token) :
    ∃ same other, read (forbidToken field .equals v) = [same] ∧
      read (forbidToken field .notEquals v) = [other] ∧
      ∀ s : Subject, s.get? field.text = some (.text v.text) →
        (same.appliesTo s = true ↔ ¬Unequal field.text v) ∧
        (other.appliesTo s = true ↔ Unequal field.text v) := by
  refine ⟨_, _, read_forbidToken field .equals v, read_forbidToken field .notEquals v,
    fun s hs => ?_⟩
  have happlies : ∀ op ∈ [Operator.equals, .notEquals], (ruleToken field op v).appliesTo s =
      op.holds (if Unequal field.text v then none else some .eq) := by
    intro op hop
    have hget : s.get? (ruleToken field op v).field = some (.text v.text) := by
      simp only [ruleToken, hf, hs]
    rw [Rule.appliesTo, hget, Option.any_some, accepts_ruleToken field hop, hf]
  rw [happlies .equals (by decide), happlies .notEquals (by decide)]
  by_cases hu : Unequal field.text v <;> simp [hu, Operator.holds]

/-- A field, a token that is a number in another spelling, and one that spells no number. -/
def nameField : Word :=
  ⟨"name", by decide, by decide⟩

def agentToken : Token :=
  ⟨"007", by decide, Text.forall_mem_of_all (by decide), by decide⟩

def nanToken : Token :=
  ⟨"-NaN", by decide, Text.forall_mem_of_all (by decide), by decide⟩

theorem forbidToken_agent :
    (∃ same other, read (forbidToken nameField .equals agentToken) = [same] ∧
      read (forbidToken nameField .notEquals agentToken) = [other] ∧
      same.appliesTo [("name", .text "007")] = true ∧
      other.appliesTo [("name", .text "007")] = false) ∧
    ∃ same other, read (forbidToken nameField .equals nanToken) = [same] ∧
      read (forbidToken nameField .notEquals nanToken) = [other] ∧
      same.appliesTo [("name", .text "-NaN")] = false ∧
      other.appliesTo [("name", .text "-NaN")] = true := by
  have hequal : ¬Unequal nameField.text agentToken := by
    decide
  have hunequal : Unequal nameField.text nanToken := by
    decide
  obtain ⟨same, other, hsame, hother, happlies⟩ :=
    forbidToken_iff nameField (by decide) agentToken
  obtain ⟨same', other', hsame', hother', happlies'⟩ :=
    forbidToken_iff nameField (by decide) nanToken
  obtain ⟨heq, hne⟩ := happlies [("name", .text "007")] (by decide)
  obtain ⟨heq', hne'⟩ := happlies' [("name", .text "-NaN")] (by decide)
  refine ⟨⟨same, other, hsame, hother, heq.mpr hequal, ?_⟩,
    same', other', hsame', hother', ?_, hne'.mpr hunequal⟩
  · exact Bool.eq_false_iff.mpr fun h => hequal (hne.mp h)
  · exact Bool.eq_false_iff.mpr fun h => heq'.mp h hunequal

/-- Not every token is equal to itself: a policy that forbids the name `-NaN` lets a component of
this name through. -/
theorem forbidToken_nan :
    ¬ ∀ (field : Word) (v : Token), Text.lowerAscii field.text = field.text →
        ∀ s : Subject, s.get? field.text = some (.text v.text) →
          (decide (read (forbidToken field .equals v)) s).decision = .deny := by
  intro h
  have hread := read_forbidToken nameField .equals nanToken
  have hdeny := h nameField nanToken (by decide) [("name", .text "-NaN")] (by decide)
  have hallow : (decide [ruleToken nameField .equals nanToken]
      [("name", .text "-NaN")]).decision = .allow := by
    decide +kernel
  rw [hread, hallow] at hdeny
  cases hdeny

end PolicyGuard.Policy
