import PolicyGuard.Json.Text
import PolicyGuard.Proofs.Attribute
import PolicyGuard.Proofs.BareValue
import PolicyGuard.Proofs.Rounding

/-!
Conditions on whole numbers.

A whole number in policy text and one in a component are both held as floating point numbers, so a
condition compares what the two become. That is the order of the whole numbers themselves, unless
two different ones become the same number, which takes one beyond 2^53.

* `holds_compare`: an operator of policy text as a relation between numbers;
* `readInt64?_intText`: a whole number reads back from its digits;
* `appliesTo_forbidWhole`: a condition on a component with a whole number.
-/

namespace PolicyGuard

open Binary64 (nearest)

/-! ## Operators between numbers -/

namespace Policy

/-- What an operator says about two whole numbers. -/
def Operator.Relates : Operator → Int → Int → Prop
  | equals, a, b => a = b
  | notEquals, a, b => a ≠ b
  | greaterThan, a, b => b < a
  | greaterOrEqual, a, b => b ≤ a
  | lessThan, a, b => a < b
  | lessOrEqual, a, b => a ≤ b
  | contains, _, _ | startsWith, _, _ | endsWith, _, _ => False

instance : (op : Operator) → (a b : Int) → Decidable (op.Relates a b)
  | .equals, a, b => inferInstanceAs (Decidable (a = b))
  | .notEquals, a, b => inferInstanceAs (Decidable (a ≠ b))
  | .greaterThan, a, b => inferInstanceAs (Decidable (b < a))
  | .greaterOrEqual, a, b => inferInstanceAs (Decidable (b ≤ a))
  | .lessThan, a, b => inferInstanceAs (Decidable (a < b))
  | .lessOrEqual, a, b => inferInstanceAs (Decidable (a ≤ b))
  | .contains, _, _ | .startsWith, _, _ | .endsWith, _, _ => inferInstanceAs (Decidable False)

theorem Operator.holds_compare (op : Operator) (a b : Int) :
    op.holds (some (compare a b)) = true ↔ op.Relates a b := by
  rcases Int.lt_trichotomy a b with h | rfl | h
  · have hc : compare a b = .lt := compare_lt_iff_lt.mpr h
    cases op <;> simp [holds, Relates, hc] <;> omega
  · cases op <;> simp [holds, Relates]
  · have hc : compare a b = .gt := compare_gt_iff_gt.mpr h
    cases op <;> simp [holds, Relates, hc] <;> omega

/-- Where the order of two pairs is the same, so are the relations. -/
theorem Operator.relates_congr (op : Operator) {a b x y : Int} (hlt : a < b → x < y)
    (heq : a = b → x = y) (hgt : b < a → y < x) : op.Relates x y ↔ op.Relates a b := by
  cases op <;> simp only [Relates] <;> omega

end Policy

/-! ## Digits of a whole number -/

theorem splitSign_of_digit {d : Char} (hd : d.isDigit = true) (ds : List Char) :
    splitSign (d :: ds) = (false, d :: ds) := by
  unfold splitSign
  split
  next h =>
    obtain ⟨rfl, -⟩ := List.cons.inj h
    exact absurd hd (by decide)
  next h =>
    obtain ⟨rfl, -⟩ := List.cons.inj h
    exact absurd hd (by decide)
  next => rfl

theorem splitSign_intText (i : Int) :
    splitSign (Json.intText i) = (decide (i < 0), Binary64.digitsOf i.natAbs) := by
  unfold Json.intText
  by_cases hi : i < 0
  · rw [if_pos hi, decide_eq_true hi]
    rfl
  · obtain ⟨d, ds, hds, hd⟩ := exists_digitsOf i.natAbs
    rw [if_neg hi, decide_eq_false hi, hds, splitSign_of_digit hd]

/-- A whole number reads back. -/
theorem readInt64?_intText {i : Int} (h : inInt64 i = true) :
    readInt64? (Json.intText i) = some i := by
  have hsplit := splitSign_intText i
  have hunsigned : unsigned (Json.intText i) = Binary64.digitsOf i.natAbs :=
    congrArg Prod.snd hsplit
  have hempty : (Binary64.digitsOf i.natAbs).isEmpty = false :=
    List.isEmpty_eq_false_iff.mpr (digitsOf_ne_nil _)
  have hall : (Binary64.digitsOf i.natAbs).all Char.isDigit = true :=
    List.all_eq_true.mpr fun c hc => isDigit_of_mem_digitsOf hc
  have hvalue :
      Binary64.signed (decide (i < 0)) (digitsValue (Binary64.digitsOf i.natAbs)) = i := by
    rw [digitsValue_digitsOf, Binary64.signed_natAbs]
  rw [readInt64?_eq, hunsigned, hsplit, hempty, hall, hvalue, h]
  rfl

theorem isDigit_of_mem_intText {i : Int} {c : Char} (hc : c ∈ Json.intText i) :
    c = '-' ∨ c.isDigit = true := by
  unfold Json.intText at hc
  split at hc
  · exact (List.mem_cons.mp hc).imp_right isDigit_of_mem_digitsOf
  · exact .inr (isDigit_of_mem_digitsOf hc)

namespace Policy

/-- No character of a whole number ends a token or starts a comment. -/
theorem endsBare_of_mem_intText {i : Int} {c : Char} (hc : c ∈ Json.intText i) :
    Clause.endsBare c = false ∧ c ≠ '/' := by
  have hdigits : ∀ n < 58, 48 ≤ n →
      Clause.endsBare (Char.ofNat n) = false ∧ Char.ofNat n ≠ '/' := by
    decide
  rcases isDigit_of_mem_intText hc with rfl | hd
  · decide
  · obtain ⟨hl, hu⟩ := Char.isDigit_iff_toNat.mp hd
    have h := hdigits c.toNat (Nat.lt_succ_of_le hu) hl
    rwa [Char.ofNat_toNat] at h

/-- A whole number as a token. -/
def Token.ofInt (i : Int) : Token where
  text := String.ofList (Json.intText i)
  ne_nil := by
    rw [String.toList_ofList, Json.intText]
    split
    · exact List.cons_ne_nil _ _
    · exact digitsOf_ne_nil _
  isBare c hc := by
    rw [String.toList_ofList] at hc
    exact (endsBare_of_mem_intText hc).1
  uncommented h := by
    have hm : '/' ∈ (String.ofList (Json.intText i)).toList := h.subset List.mem_cons_self
    rw [String.toList_ofList] at hm
    exact (endsBare_of_mem_intText hm).2 rfl

theorem ofToken_ofInt {i : Int} (h : inInt64 i = true) :
    Value.ofToken (Token.ofInt i).text.toList = .number (.ofInt i) := by
  simp only [Token.ofInt, String.toList_ofList, Value.ofToken, readInt64?_intText h]

/-! ## The rule of a condition -/

theorem accepts_ruleToken_ofInt {field : Word} (hs : Text.lowerAscii field.text ≠ "severity")
    (op : Operator) {a b : Int} (ha : inInt64 a = true) (hb : inInt64 b = true) :
    (ruleToken field op (.ofInt b)).accepts (.number (.ofInt a)) = true ↔
      op.Relates (nearest a) (nearest b) := by
  rw [← op.holds_compare, ← Binary64.compare?_ofInt ha hb, Rule.accepts, ruleToken]
  dsimp only
  rw [if_neg hs, ofToken_ofInt hb]
  rfl

/-- Two whole numbers that do not become the same number keep their order. -/
theorem Operator.relates_nearest (op : Operator) {a b : Int} (h : a = b ∨ nearest a ≠ nearest b) :
    op.Relates (nearest a) (nearest b) ↔ op.Relates a b := by
  have hlt {i j : Int} (hij : i < j) : nearest i ≤ nearest j :=
    (Binary64.isNearest_nearest i).mono (Binary64.isNearest_nearest j) hij
  refine op.relates_congr (fun hab => ?_) (congrArg nearest) (fun hba => ?_)
  · have := hlt hab
    omega
  · have := hlt hba
    omega

end Policy

namespace Gate

open Policy

/-- A field of a component that is a whole number, as an attribute. -/
theorem get?_subject_whole (record : Record) {name : String} {a : Int}
    (h : record.fields.get? name = some (.number (.whole a))) (entities : Option Entities) :
    (subject entities record.fields).get? name = some (.number (.ofInt a)) := by
  refine get?_subject_of_own record ?_ entities
  rw [Subject.own?, h]
  rfl

section

variable (field : Word) (hf : Text.lowerAscii field.text = field.text)
  (hs : field.text ≠ "severity") (op : Operator) {a b : Int} (ha : inInt64 a = true)
  (hb : inInt64 b = true)

include hf hs ha hb

/-- **Conditions on whole numbers.** For every field without capitals but `severity`, every operator
and all whole numbers of 64 bits, the policy that holds the field against the second number has one
rule. It applies to a component that has the first number there exactly if the operator relates the
nearest numbers with 53 significant bits. These are related as the whole numbers are, unless
different whole numbers have the same one; up to 2^53 each whole number is its own. -/
theorem appliesTo_forbidWhole :
    ∃ r, read (forbidToken field op (.ofInt b)) = [r] ∧
      Binary64.IsNearest a (nearest a) ∧ Binary64.IsNearest b (nearest b) ∧
      ∀ record : Record, record.fields.get? field.text = some (.number (.whole a)) → ∀ entities,
        let s := subject entities record.fields
        (r.appliesTo s = true ↔ op.Relates (nearest a) (nearest b)) ∧
        (a = b ∨ nearest a ≠ nearest b → (r.appliesTo s = true ↔ op.Relates a b)) ∧
        (a.natAbs ≤ 2 ^ 53 → b.natAbs ≤ 2 ^ 53 → (r.appliesTo s = true ↔ op.Relates a b)) := by
  refine ⟨_, read_forbidToken field op (.ofInt b), Binary64.isNearest_nearest a,
    Binary64.isNearest_nearest b, fun record hfield entities => ?_⟩
  have happlies :
      (ruleToken field op (.ofInt b)).appliesTo (subject entities record.fields) = true ↔
        op.Relates (nearest a) (nearest b) := by
    have hget : (subject entities record.fields).get? (ruleToken field op (.ofInt b)).field =
        some (.number (.ofInt a)) := by
      show (subject entities record.fields).get? (Text.lowerAscii field.text) = _
      rw [hf, get?_subject_whole record hfield]
    have hne : Text.lowerAscii field.text ≠ "severity" := by
      rw [hf]
      exact hs
    rw [Rule.appliesTo, hget, Option.any_some, accepts_ruleToken_ofInt hne op ha hb]
  refine ⟨happlies, fun h => happlies.trans (op.relates_nearest h), fun hna hnb => ?_⟩
  rw [happlies, Binary64.nearest_eq_self hna, Binary64.nearest_eq_self hnb]

end

def sizeField : Word :=
  ⟨"size", by decide, by decide⟩

/-- A component of a size. -/
def sized (a : Int) : Record :=
  ⟨[("size", .number (.whole a))], List.pairwise_singleton _ _⟩

/-- Two sizes beyond 2^53 that become different numbers, and two that become the same. -/
theorem appliesTo_forbidWhole_sized :
    (∃ r, read (forbidToken sizeField .greaterThan (.ofInt 9223372036854775295)) = [r] ∧
      r.appliesTo (subject none (sized 9223372036854775296).fields) = true) ∧
    ∃ r, read (forbidToken sizeField .equals (.ofInt (-9007199254740992))) = [r] ∧
      r.appliesTo (subject none (sized (-9007199254740993)).fields) = true := by
  have hf : Text.lowerAscii sizeField.text = sizeField.text := by
    decide +kernel
  have hs : sizeField.text ≠ "severity" := by
    decide
  obtain ⟨r, hr, -, -, happlies⟩ := appliesTo_forbidWhole sizeField hf hs .greaterThan
    (a := 9223372036854775296) (b := 9223372036854775295) (by decide) (by decide)
  obtain ⟨r', hr', -, -, happlies'⟩ := appliesTo_forbidWhole sizeField hf hs .equals
    (a := -9007199254740993) (b := -9007199254740992) (by decide) (by decide)
  have hdifferent : nearest 9223372036854775296 ≠ nearest 9223372036854775295 := by
    decide +kernel
  have hsame : nearest (-9007199254740993) = nearest (-9007199254740992) := by
    decide +kernel
  refine ⟨⟨r, hr, ?_⟩, r', hr', ?_⟩
  · exact ((happlies (sized _) rfl none).2.1 (.inr hdifferent)).mpr (by decide)
  · exact (happlies' (sized _) rfl none).1.mpr hsame

/-- Not all whole numbers compare exactly: `size > 9007199254740992` lets a component of the next
size through. -/
theorem not_appliesTo_sized :
    ¬ ∀ (field : Word) (op : Operator) (a b : Int), Text.lowerAscii field.text = field.text →
      field.text ≠ "severity" → inInt64 a = true → inInt64 b = true →
        ∃ r, read (forbidToken field op (.ofInt b)) = [r] ∧
          ∀ record : Record, record.fields.get? field.text = some (.number (.whole a)) →
            ∀ entities, (r.appliesTo (subject entities record.fields) = true ↔
              op.Relates a b) := by
  intro h
  obtain ⟨r, hr, happlies⟩ := h sizeField .greaterThan 9007199254740993 9007199254740992
    (by decide +kernel) (by decide) (by decide) (by decide)
  rw [read_forbidToken] at hr
  obtain rfl := List.singleton_inj.mp hr
  have hallowed : (ruleToken sizeField .greaterThan (.ofInt 9007199254740992)).appliesTo
      (subject none (sized 9007199254740993).fields) = false := by
    decide +kernel
  have hgreater : Operator.greaterThan.Relates 9007199254740993 9007199254740992 := by
    decide
  rw [(happlies (sized _) rfl none).mpr hgreater] at hallowed
  cases hallowed

end Gate

end PolicyGuard
