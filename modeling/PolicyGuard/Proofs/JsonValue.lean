import PolicyGuard.Json.Document

/-!
Values that were read, written out as documents.

A value that was read has its objects sorted by name and is nested no deeper than allowed,
so the document that is written for it stands for the same value.

* `Table.sorted_ofList`, `Table.ofList_of_sorted`: a table is its own table;
* `value?_document`: a value that was read is read again;
* `value?_of_fits`: so is one that is in order and not nested too deep;
* `WasRead.ordered`: its members are in order, and so it is with the values inside.
-/

namespace PolicyGuard

/-! ## Sorted tables -/

namespace Table

variable {α : Type} {t : Table α} {name : String} {value : α}

/-- The names come in order, each of them once. -/
def Sorted (t : Table α) : Prop :=
  t.Pairwise fun p q => p.1 < q.1

instance (t : Table α) : Decidable (Sorted t) :=
  inferInstanceAs (Decidable (t.Pairwise fun p q => p.1 < q.1))

theorem mem_put {p : String × α} (h : p ∈ t.put name value) : p = (name, value) ∨ p ∈ t := by
  induction t with
  | nil => exact .inl (List.mem_singleton.mp h)
  | cons q rest ih =>
    obtain ⟨key, old⟩ := q
    unfold put at h
    split at h
    · rcases List.mem_cons.mp h with rfl | h
      · exact .inl rfl
      · exact .inr (List.mem_cons_of_mem _ h)
    · split at h
      · exact List.mem_cons.mp h
      · rcases List.mem_cons.mp h with rfl | h
        · exact .inr List.mem_cons_self
        · exact (ih h).imp id (List.mem_cons_of_mem _)

theorem sorted_put (h : Sorted t) : Sorted (t.put name value) := by
  induction t with
  | nil => exact List.pairwise_singleton _ _
  | cons q rest ih =>
    obtain ⟨key, old⟩ := q
    obtain ⟨hkey, hrest⟩ := List.pairwise_cons.mp h
    unfold put
    split
    next he =>
      subst he
      exact List.pairwise_cons.mpr ⟨hkey, hrest⟩
    next he =>
      split
      next hlt =>
        refine List.pairwise_cons.mpr ⟨fun p hp => ?_, h⟩
        rcases List.mem_cons.mp hp with rfl | hp
        · exact hlt
        · exact String.lt_trans hlt (hkey p hp)
      next hlt =>
        have hgt : key < name := Std.lt_of_le_of_ne (String.not_lt.mp hlt) (Ne.symm he)
        refine List.pairwise_cons.mpr ⟨fun p hp => ?_, ih hrest⟩
        rcases mem_put hp with rfl | hp
        · exact hgt
        · exact hkey p hp

/-- A name after all others comes last. -/
theorem put_of_lt (h : ∀ p ∈ t, p.1 < name) : t.put name value = t ++ [(name, value)] := by
  induction t with
  | nil => rfl
  | cons q rest ih =>
    obtain ⟨key, old⟩ := q
    obtain ⟨hkey, hrest⟩ := List.forall_mem_cons.mp h
    have hne : name ≠ key := by
      rintro rfl
      exact String.lt_irrefl _ hkey
    rw [put, if_neg hne, if_neg (String.lt_asymm hkey), ih hrest, List.cons_append]

theorem mem_foldl_put {pairs : List (String × α)} {p : String × α}
    (h : p ∈ pairs.foldl (fun t q => t.put q.1 q.2) t) : p ∈ t ∨ p ∈ pairs := by
  induction pairs generalizing t with
  | nil => exact .inl h
  | cons q pairs ih =>
    rcases ih h with h | h
    · rcases mem_put h with rfl | h
      · exact .inr List.mem_cons_self
      · exact .inl h
    · exact .inr (List.mem_cons_of_mem _ h)

theorem mem_ofList {pairs : List (String × α)} {p : String × α} (h : p ∈ ofList pairs) :
    p ∈ pairs :=
  (mem_foldl_put h).resolve_left List.not_mem_nil

theorem sorted_foldl_put (pairs : List (String × α)) (h : Sorted t) :
    Sorted (pairs.foldl (fun t q => t.put q.1 q.2) t) := by
  induction pairs generalizing t with
  | nil => exact h
  | cons q pairs ih => exact ih (sorted_put h)

theorem sorted_ofList (pairs : List (String × α)) : Sorted (ofList pairs) :=
  sorted_foldl_put pairs List.Pairwise.nil

theorem foldl_put_of_sorted {pairs : List (String × α)} (h : Sorted (t ++ pairs)) :
    pairs.foldl (fun t q => t.put q.1 q.2) t = t ++ pairs := by
  induction pairs generalizing t with
  | nil => exact (List.append_nil t).symm
  | cons q pairs ih =>
    have hlast : ∀ p ∈ t, p.1 < q.1 :=
      fun p hp => (List.pairwise_append.mp h).2.2 p hp q List.mem_cons_self
    have hsplit : t ++ q :: pairs = t ++ [q] ++ pairs := by
      rw [List.append_assoc, List.singleton_append]
    rw [hsplit] at h ⊢
    rw [List.foldl_cons, put_of_lt hlast]
    exact ih h

/-- A table that is in order is its own table. -/
theorem ofList_of_sorted (h : Sorted t) : ofList t = t :=
  foldl_put_of_sorted (t := []) h

/-- Of pairs with the same name the last one counts. -/
theorem get?_foldl_put (pairs : List (String × α)) (t : Table α) (name : String) :
    get? name (pairs.foldl (fun t p => t.put p.1 p.2) t) =
      ((pairs.findRev? fun p => p.1 = name).map Prod.snd).or (t.get? name) := by
  induction pairs generalizing t with
  | nil => rfl
  | cons p pairs ih =>
    have hone : (t.put p.1 p.2).get? name =
        (if p.1 = name then some p.2 else none).or (t.get? name) := by
      rw [get?_put]
      by_cases h : p.1 = name
      · rw [if_pos h, if_pos h.symm, Option.some_or]
      · rw [if_neg h, if_neg (Ne.symm h), Option.none_or]
    have hall : ((p :: pairs).findRev? fun p => p.1 = name).map Prod.snd =
        ((pairs.findRev? fun p => p.1 = name).map Prod.snd).or
          (if p.1 = name then some p.2 else none) := by
      rw [List.findRev?_eq_find?_reverse, List.findRev?_eq_find?_reverse, List.reverse_cons,
        List.find?_append, Option.map_or]
      by_cases h : p.1 = name <;> simp [h]
    rw [List.foldl_cons, ih, hone, hall, Option.or_assoc]

theorem get?_ofList (pairs : List (String × α)) (name : String) :
    (ofList pairs).get? name = (pairs.findRev? fun p => p.1 = name).map Prod.snd :=
  (get?_foldl_put pairs [] name).trans Option.or_none

theorem mem_of_get? (h : t.get? name = some value) : (name, value) ∈ t := by
  induction t with
  | nil => cases h
  | cons q rest ih =>
    obtain ⟨key, old⟩ := q
    unfold get? at h
    split at h
    next he =>
      cases h
      exact he ▸ List.mem_cons_self
    next => exact List.mem_cons_of_mem _ (ih h)

end Table

/-! ## Values and their documents -/

namespace Json

theorem memberValues?_memberDocuments {depth : Nat} {members : List (String × Json)}
    (h : ∀ p ∈ members, p.2.document.value? depth = some p.2) :
    memberValues? depth (memberDocuments members) = some members := by
  induction members with
  | nil => rfl
  | cons m members ih =>
    obtain ⟨name, value⟩ := m
    obtain ⟨hvalue, hmembers⟩ := List.forall_mem_cons.mp h
    rw [memberDocuments, memberValues?, hvalue, ih hmembers]
    rfl

mutual

/-- A value that was read is read again from the document that is written for it. -/
theorem value?_document : (d : Document) → {depth : Nat} → {j : Json} →
    d.value? depth = some j → j.document.value? depth = some j
  | .null, _, _, h => by
    cases h
    rfl
  | .bool b, _, _, h => by
    cases h
    rfl
  | .number n, _, _, h => by
    obtain ⟨n, rfl, rfl⟩ := Option.map_eq_some_iff.mp h
    rfl
  | .string s, _, _, h => by
    obtain ⟨s, rfl, rfl⟩ := Option.map_eq_some_iff.mp h
    rfl
  | .array items, depth, _, h => by
    rw [Document.value?, Option.ite_none_left_eq_some] at h
    obtain ⟨hdepth, h⟩ := h
    obtain ⟨values, hvalues, rfl⟩ := Option.map_eq_some_iff.mp h
    rw [document, Document.value?, if_neg hdepth, itemValues?_itemDocuments items hvalues]
    rfl
  | .object members, depth, _, h => by
    rw [Document.value?, Option.ite_none_left_eq_some] at h
    obtain ⟨hdepth, h⟩ := h
    obtain ⟨pairs, hpairs, rfl⟩ := Option.map_eq_some_iff.mp h
    have hall := memberValues?_documents members hpairs
    -- of equal names the last one is left, so every member of the table was read
    rw [document, Document.value?, if_neg hdepth,
      memberValues?_memberDocuments fun p hp => hall p (Table.mem_ofList hp), Option.map_some,
      Table.ofList_of_sorted (Table.sorted_ofList pairs)]

theorem itemValues?_itemDocuments : (items : List Document) → {depth : Nat} →
    {values : List Json} → itemValues? depth items = some values →
      itemValues? depth (itemDocuments values) = some values
  | [], _, _, h => by
    cases h
    rfl
  | item :: items, depth, _, h => by
    simp only [itemValues?, Option.bind_eq_bind, Option.bind_eq_some_iff] at h
    obtain ⟨value, hvalue, values, hvalues, h⟩ := h
    cases h
    rw [itemDocuments, itemValues?, value?_document item hvalue,
      itemValues?_itemDocuments items hvalues]
    rfl

theorem memberValues?_documents : (members : List (Option String × Document)) → {depth : Nat} →
    {pairs : List (String × Json)} → memberValues? depth members = some pairs →
      ∀ p ∈ pairs, p.2.document.value? depth = some p.2
  | [], _, _, h => by
    cases h
    exact fun p hp => absurd hp List.not_mem_nil
  | (name, value) :: members, depth, _, h => by
    simp only [memberValues?, Option.bind_eq_bind, Option.bind_eq_some_iff] at h
    obtain ⟨text, -, j, hj, pairs, hpairs, h⟩ := h
    cases h
    exact List.forall_mem_cons.mpr
      ⟨value?_document value hj, memberValues?_documents members hpairs⟩

end

/-! ## Values that a reader has room for -/

mutual

/-- Whether members are in order, and containers are nested as deep as a reader allows. -/
def fits (depth : Nat) : Json → Bool
  | array items => 1 < depth && itemsFit (depth - 1) items
  | object members => 1 < depth && Table.Sorted members && membersFit (depth - 1) members
  | _ => true

def itemsFit (depth : Nat) : List Json → Bool
  | [] => true
  | item :: rest => item.fits depth && itemsFit depth rest

def membersFit (depth : Nat) : List (String × Json) → Bool
  | [] => true
  | (_, value) :: rest => value.fits depth && membersFit depth rest

end

mutual

theorem value?_of_fits : (j : Json) → {depth : Nat} → j.fits depth = true →
    j.document.value? depth = some j
  | .null, _, _ => rfl
  | .bool _, _, _ => rfl
  | .number _, _, _ => rfl
  | .string _, _, _ => rfl
  | .array items, depth, h => by
    simp only [fits, Bool.and_eq_true, decide_eq_true_eq] at h
    obtain ⟨hdepth, hitems⟩ := h
    rw [document, Document.value?, if_neg (by omega), itemValues?_of_fit items hitems]
    rfl
  | .object members, depth, h => by
    simp only [fits, Bool.and_eq_true, decide_eq_true_eq] at h
    obtain ⟨⟨hdepth, hsorted⟩, hmembers⟩ := h
    rw [document, Document.value?, if_neg (by omega),
      memberValues?_memberDocuments (forall_value?_of_fit members hmembers), Option.map_some,
      Table.ofList_of_sorted hsorted]

theorem itemValues?_of_fit : (items : List Json) → {depth : Nat} → itemsFit depth items = true →
    itemValues? depth (itemDocuments items) = some items
  | [], _, _ => rfl
  | item :: items, depth, h => by
    obtain ⟨hitem, hitems⟩ := (Bool.and_eq_true _ _).mp h
    rw [itemDocuments, itemValues?, value?_of_fits item hitem, itemValues?_of_fit items hitems]
    rfl

theorem forall_value?_of_fit : (members : List (String × Json)) → {depth : Nat} →
    membersFit depth members = true → ∀ p ∈ members, p.2.document.value? depth = some p.2
  | [], _, _ => fun p hp => absurd hp List.not_mem_nil
  | (_, value) :: members, depth, h => by
    obtain ⟨hvalue, hmembers⟩ := (Bool.and_eq_true _ _).mp h
    exact List.forall_mem_cons.mpr
      ⟨value?_of_fits value hvalue, forall_value?_of_fit members hmembers⟩

end

/-! ## Inside a value -/

/-- A value that a document stands for. -/
def WasRead (j : Json) : Prop :=
  ∃ (d : Document) (depth : Nat), d.value? depth = some j

theorem wasRead_of_read? {text : String} {j : Json} (h : read? text = some j) : j.WasRead := by
  obtain ⟨d, -, hd⟩ := Option.bind_eq_some_iff.mp h
  exact ⟨d, depthLimit, hd⟩

theorem wasRead_of_itemValues? {depth : Nat} {items : List Document} {values : List Json}
    (h : itemValues? depth items = some values) : ∀ j ∈ values, j.WasRead := by
  induction items generalizing values with
  | nil =>
    cases h
    exact fun j hj => absurd hj List.not_mem_nil
  | cons item items ih =>
    simp only [itemValues?, Option.bind_eq_bind, Option.bind_eq_some_iff] at h
    obtain ⟨value, hvalue, values, hvalues, h⟩ := h
    cases h
    exact List.forall_mem_cons.mpr ⟨⟨item, depth, hvalue⟩, ih hvalues⟩

theorem wasRead_of_memberValues? {depth : Nat} {members : List (Option String × Document)}
    {pairs : List (String × Json)} (h : memberValues? depth members = some pairs) :
    ∀ p ∈ pairs, p.2.WasRead := by
  induction members generalizing pairs with
  | nil =>
    cases h
    exact fun p hp => absurd hp List.not_mem_nil
  | cons member members ih =>
    simp only [memberValues?, Option.bind_eq_bind, Option.bind_eq_some_iff] at h
    obtain ⟨name, -, value, hvalue, pairs, hpairs, h⟩ := h
    cases h
    exact List.forall_mem_cons.mpr ⟨⟨member.2, depth, hvalue⟩, ih hpairs⟩

/-- Members in order, and inside a container only values that were read. -/
def Ordered : Json → Prop
  | array items => ∀ j ∈ items, j.WasRead
  | object members => Table.Sorted members ∧ ∀ p ∈ members, p.2.WasRead
  | _ => True

theorem WasRead.ordered {j : Json} (h : j.WasRead) : j.Ordered := by
  obtain ⟨d, depth, h⟩ := h
  cases d with
  | null =>
    cases h
    trivial
  | bool b =>
    cases h
    trivial
  | number n =>
    obtain ⟨n, -, rfl⟩ := Option.map_eq_some_iff.mp h
    trivial
  | string s =>
    obtain ⟨s, -, rfl⟩ := Option.map_eq_some_iff.mp h
    trivial
  | array items =>
    rw [Document.value?, Option.ite_none_left_eq_some] at h
    obtain ⟨-, h⟩ := h
    obtain ⟨values, hvalues, rfl⟩ := Option.map_eq_some_iff.mp h
    exact wasRead_of_itemValues? hvalues
  | object members =>
    rw [Document.value?, Option.ite_none_left_eq_some] at h
    obtain ⟨-, h⟩ := h
    obtain ⟨pairs, hpairs, rfl⟩ := Option.map_eq_some_iff.mp h
    exact ⟨Table.sorted_ofList pairs,
      fun p hp => wasRead_of_memberValues? hpairs p (Table.mem_ofList hp)⟩

theorem WasRead.get? {j member : Json} {name : String} (h : j.WasRead)
    (hm : j.get? name = some member) : member.WasRead := by
  cases j with
  | object members => exact h.ordered.2 _ (Table.mem_of_get? hm)
  | _ => cases hm

end Json

end PolicyGuard
