import PolicyGuard.Policy.Comment

/-!
What stays when comments go.

* `Verbatim`: text that neither holds a comment nor opens a quote or a comment;
* `verbatim_plain`, `verbatim_quoted`: code without quotes and slashes, and anything
  between two quotes;
* `stripFrom_append`: what becomes of a second text depends on where the first one ends;
* `stripComments_newline`: two texts on lines of their own go by themselves, if the
  first does not end inside quotes.
-/

namespace PolicyGuard.Policy

/-- Text that stays as it is, whatever follows, and leaves no quote open. -/
def Verbatim (xs : List Char) : Prop :=
  ∀ rest, stripFrom .code (xs ++ rest) = xs ++ stripFrom .code rest

theorem verbatim_nil : Verbatim [] :=
  fun _ => rfl

theorem Verbatim.append {xs ys : List Char} (hx : Verbatim xs) (hy : Verbatim ys) :
    Verbatim (xs ++ ys) := by
  intro rest
  rw [List.append_assoc, hx, hy, List.append_assoc]

theorem stripComments_verbatim {xs : List Char} (h : Verbatim xs) : stripComments xs = xs := by
  have hx := h []
  simpa [stripComments, stripFrom] using hx

theorem stripFrom_code_cons {c : Char} {cs : List Char} (h : c = '/' → cs.head? ≠ some '/') :
    stripFrom .code (c :: cs) = c :: stripFrom (if c = '"' then .quoted else .code) cs := by
  rw [stripFrom]
  rintro rest hc rfl
  exact h hc rfl

theorem verbatim_plain {xs : List Char} (hs : '/' ∉ xs) (hq : '"' ∉ xs) : Verbatim xs := by
  intro rest
  induction xs with
  | nil => rfl
  | cons c cs ih =>
    rw [List.mem_cons, not_or] at hs hq
    have hc : c ≠ '"' := fun h => hq.1 h.symm
    rw [List.cons_append, stripFrom_code_cons fun h => absurd h.symm hs.1, if_neg hc,
      ih hs.2 hq.2]
    rfl

/-- Inside quotes only a quote matters. -/
theorem stripFrom_quoted {v : List Char} (hv : '"' ∉ v) (rest : List Char) :
    stripFrom .quoted (v ++ '"' :: rest) = v ++ '"' :: stripFrom .code rest := by
  induction v with
  | nil => rfl
  | cons c cs ih =>
    obtain ⟨hc, hcs⟩ : c ≠ '"' ∧ '"' ∉ cs := by
      simpa [eq_comm] using hv
    rw [List.cons_append, stripFrom, if_neg hc, ih hcs]
    rfl

theorem verbatim_quoted {v : List Char} (hv : '"' ∉ v) : Verbatim ('"' :: v ++ ['"']) := by
  intro rest
  have h := stripFrom_quoted hv rest
  simp only [List.cons_append, List.append_assoc, List.nil_append]
  rw [stripFrom_code_cons fun hc => absurd hc (by decide), if_pos rfl, h]

theorem Verbatim.intercalate {sep : List Char} {xss : List (List Char)} (hs : Verbatim sep)
    (hx : ∀ xs ∈ xss, Verbatim xs) : Verbatim (sep.intercalate xss) := by
  induction xss with
  | nil => exact verbatim_nil
  | cons xs xss ih =>
    obtain ⟨hxs, hxss⟩ := List.forall_mem_cons.mp hx
    cases xss with
    | nil =>
      rw [List.intercalate_singleton]
      exact hxs
    | cons ys yss =>
      rw [List.intercalate_cons_cons]
      exact (hxs.append hs).append (ih hxss)

/-! ## Two texts -/

/-- Where the end of a text stands. -/
def zoneAfter : Zone → List Char → Zone
  | zone, [] => zone
  | .code, '/' :: '/' :: rest => zoneAfter .comment rest
  | .code, c :: rest => zoneAfter (if c = '"' then .quoted else .code) rest
  | .quoted, c :: rest => zoneAfter (if c = '"' then .code else .quoted) rest
  | .comment, c :: rest => zoneAfter (if c = '\n' then .code else .comment) rest

/-- Text that does not end inside quotes. -/
def QuotesClosed (text : List Char) : Prop :=
  zoneAfter .code text ≠ .quoted

instance (text : List Char) : Decidable (QuotesClosed text) :=
  inferInstanceAs (Decidable (_ ≠ _))

/-- Two texts go one after the other, unless a comment may start where they meet. -/
theorem stripFrom_append (zone : Zone) (xs : List Char) {ys : List Char}
    (hy : ys.head? ≠ some '/') :
    stripFrom zone (xs ++ ys) = stripFrom zone xs ++ stripFrom (zoneAfter zone xs) ys := by
  induction zone, xs using zoneAfter.induct with
  | case1 zone => cases zone <;> rfl
  | case2 rest ih => exact ih
  | case3 c rest hc ih =>
    have hr : c = '/' → rest.head? ≠ some '/' := by
      intro hs hh
      obtain ⟨tail, rfl⟩ := List.head?_eq_some_iff.mp hh
      exact hc tail hs rfl
    have hn : c = '/' → (rest ++ ys).head? ≠ some '/' := by
      intro hs
      cases rest with
      | nil => exact hy
      | cons d tail => exact hr hs
    have hz : zoneAfter .code (c :: rest) =
        zoneAfter (if c = '"' then .quoted else .code) rest := by
      rw [zoneAfter]
      exact hc
    rw [List.cons_append, stripFrom_code_cons hr, stripFrom_code_cons hn, hz, ih]
    rfl
  | case4 c rest ih => simp [stripFrom, zoneAfter, ih]
  | case5 c rest ih =>
    by_cases hc : c = '\n' <;> simp [stripFrom, zoneAfter, hc] at ih ⊢ <;> exact ih

theorem stripFrom_newline (zone : Zone) (xs ys : List Char) (h : zoneAfter zone xs ≠ .quoted) :
    stripFrom zone (xs ++ '\n' :: ys) = stripFrom zone xs ++ '\n' :: stripFrom .code ys := by
  rw [stripFrom_append zone xs (by simp)]
  cases hz : zoneAfter zone xs with
  | code => rfl
  | quoted => exact absurd hz h
  | comment => rfl

theorem stripComments_newline {xs : List Char} (h : QuotesClosed xs) (ys : List Char) :
    stripComments (xs ++ '\n' :: ys) = stripComments xs ++ '\n' :: stripComments ys :=
  stripFrom_newline .code xs ys h

end PolicyGuard.Policy
