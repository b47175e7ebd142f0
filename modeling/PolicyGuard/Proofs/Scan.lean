import PolicyGuard.Text.Blank
import PolicyGuard.Text.Scan

/-!
Scans of a text that is put together from parts.

* `takeWhile_stop`, `takeWhile_append_stop`, `span_append`: where a span of characters ends;
* `of_mem_intercalate`, `exists_of_mem_mapM`: what holds of parts;
* `findFrom_found`: a match at the start of the text comes first;
* `findFrom_pass`: characters that start no match are passed over;
* `findFrom_intercalate`: matches with such characters between them;
* `exists_of_mem_findFrom`: what a scan finds is a match at some place;
* `findFrom_append`: over two parts a scan finds what it finds in each, provided no
  place that it passes over in the first part starts a match that runs into the second;
* `exists_findFrom_of_miss`: otherwise it finds such a match.
-/

namespace PolicyGuard.Text

/-! ## Spans -/

theorem takeWhile_stop {α : Type} {p : α → Bool} {xs : List α} (hx : ∀ x ∈ xs, p x = true) {c : α}
    (hc : p c = false) (rest : List α) : (xs ++ c :: rest).takeWhile p = xs := by
  rw [List.takeWhile_append_of_pos hx, List.takeWhile_cons_of_neg (by simp [hc]), List.append_nil]

theorem dropWhile_stop {α : Type} {p : α → Bool} {xs : List α} (hx : ∀ x ∈ xs, p x = true) {c : α}
    (hc : p c = false) (rest : List α) : (xs ++ c :: rest).dropWhile p = c :: rest := by
  rw [List.dropWhile_append_of_pos hx, List.dropWhile_cons_of_neg (by simp [hc])]

/-- A span does not go on into a text that starts with a character that stops it. -/
theorem takeWhile_append_stop {α : Type} {p : α → Bool} {rest : List α}
    (hr : ∀ c ∈ rest.head?, p c = false) (xs : List α) :
    (xs ++ rest).takeWhile p = xs.takeWhile p := by
  induction xs with
  | nil =>
    cases rest with
    | nil => rfl
    | cons c rest => exact List.takeWhile_cons_of_neg (by simp [hr c rfl])
  | cons x xs ih => cases hx : p x <;> simp [hx, ih]

theorem dropWhile_append_stop {p : Char → Bool} {rest : List Char}
    (hr : ∀ c ∈ rest.head?, p c = false) (xs : List Char) :
    (xs ++ rest).dropWhile p = xs.dropWhile p ++ rest := by
  induction xs with
  | nil =>
    cases rest with
    | nil => rfl
    | cons c rest => exact List.dropWhile_cons_of_neg (by simp [hr c rfl])
  | cons x xs ih => cases hx : p x <;> simp [hx, ih]

/-- A span that ends within the first of two texts is the span of that text. -/
theorem takeWhile_append_of_le {p : Char → Bool} {xs ys : List Char}
    (h : ys.length ≤ ((xs ++ ys).dropWhile p).length) :
    (xs ++ ys).takeWhile p = xs.takeWhile p := by
  have hl := congrArg List.length (List.takeWhile_append_dropWhile (p := p) (l := xs ++ ys))
  rw [List.length_append, List.length_append] at hl
  rw [List.takeWhile_append] at hl ⊢
  split
  next hx =>
    rw [if_pos hx, List.length_append] at hl
    have hy : ys.takeWhile p = [] := List.eq_nil_of_length_eq_zero (by omega)
    rw [hy, (List.takeWhile_prefix p).eq_of_length hx, List.append_nil]
  next => rfl

/-- What follows the place where a span stops does not matter to the span. -/
theorem span_append {p : Char → Bool} {xs rest : List Char} {c : Char}
    (h : xs.dropWhile p = c :: rest) (more : List Char) :
    (xs ++ more).takeWhile p = xs.takeWhile p ∧ (xs ++ more).dropWhile p = c :: (rest ++ more) := by
  have hc : p c = false := by
    have hn := List.head?_dropWhile_not p xs
    rw [h] at hn
    simpa using hn
  have ht : ∀ x ∈ xs.takeWhile p, p x = true := List.all_eq_true.mp List.all_takeWhile
  have hx : xs ++ more = xs.takeWhile p ++ c :: (rest ++ more) := by
    rw [← List.cons_append, ← h, ← List.append_assoc, List.takeWhile_append_dropWhile]
  rw [hx]
  exact ⟨takeWhile_stop ht hc _, dropWhile_stop ht hc _⟩

/-- A text that begins as another still does so when both are trimmed. -/
theorem isPrefix_dropWhile {p : Char → Bool} {cs ds : List Char} (h : cs <+: ds) :
    cs.dropWhile p <+: ds.dropWhile p := by
  obtain ⟨more, rfl⟩ := h
  rw [List.dropWhile_append]
  split
  next hn =>
    rw [List.isEmpty_iff.mp hn]
    exact List.nil_prefix
  next => exact List.prefix_append _ _

theorem isPrefix_trimEnd {p : Char → Bool} {cs ds : List Char} (h : cs <+: ds) :
    (cs.reverse.dropWhile p).reverse <+: (ds.reverse.dropWhile p).reverse := by
  obtain ⟨more, rfl⟩ := h
  rw [List.reverse_append, List.dropWhile_append]
  split
  · exact List.prefix_rfl
  · rw [List.reverse_append, List.reverse_reverse]
    exact (List.reverse_prefix.mpr (List.dropWhile_suffix p)).trans
      (by rw [List.reverse_reverse]; exact List.prefix_append _ _)

theorem skipBlanks_append {cs rest : List Char} {c : Char} (h : skipBlanks cs = c :: rest)
    (more : List Char) : skipBlanks (cs ++ more) = c :: (rest ++ more) :=
  (span_append h more).2

theorem after?_append {word cs rest : List Char} (h : after? word cs = some rest)
    (more : List Char) : after? word (cs ++ more) = some (rest ++ more) := by
  induction word generalizing cs with
  | nil =>
    obtain rfl : cs = rest := Option.some.inj h
    rfl
  | cons w ws ih =>
    cases cs with
    | nil => exact absurd h (by simp [after?])
    | cons c cs =>
      by_cases hc : w = c
      · simp only [after?, hc, ↓reduceIte, List.cons_append] at h ⊢
        exact ih h
      · simp [after?, hc] at h

theorem after?_eq_some_iff {word cs rest : List Char} :
    after? word cs = some rest ↔ word ++ rest = cs := by
  induction word generalizing cs with
  | nil => simp [after?, eq_comm]
  | cons w ws ih =>
    cases cs with
    | nil => simp [after?]
    | cons c cs => simp [after?, ih]

theorem isSuffix_of_after? {word cs rest : List Char} (h : after? word cs = some rest) :
    rest <:+ cs :=
  ⟨word, after?_eq_some_iff.mp h⟩

theorem length_taken (xs rest : List Char) : (xs ++ rest).length - rest.length = xs.length := by
  rw [List.length_append]
  omega

theorem passes_of_not_mem {α : Type} [DecidableEq α] {xs : List α} {c : α} (h : c ∉ xs) :
    ∀ x ∈ xs, decide (x ≠ c) = true := by
  intro x hx
  exact decide_eq_true (ne_of_mem_of_not_mem hx h)

/-- A fact about few characters is decided one by one. -/
theorem forall_mem_of_all {P : Char → Prop} [DecidablePred P] {cs : List Char}
    (h : cs.all (fun c => decide (P c)) = true) : ∀ c ∈ cs, P c :=
  fun c hc => of_decide_eq_true (List.all_eq_true.mp h c hc)

/-! ## Parts -/

/-- What holds of the characters of parts and of what is put between them. -/
theorem of_mem_intercalate {P : Char → Prop} {sep : List Char} {xss : List (List Char)}
    (hs : ∀ c ∈ sep, P c) (hx : ∀ xs ∈ xss, ∀ c ∈ xs, P c) : ∀ c ∈ sep.intercalate xss, P c := by
  induction xss with
  | nil => exact fun c hc => absurd hc List.not_mem_nil
  | cons xs xss ih =>
    obtain ⟨hxs, hxss⟩ := List.forall_mem_cons.mp hx
    cases xss with
    | nil =>
      rw [List.intercalate_singleton]
      exact hxs
    | cons ys yss =>
      rw [List.intercalate_cons_cons]
      exact List.forall_mem_append.mpr ⟨List.forall_mem_append.mpr ⟨hxs, hs⟩, ih hxss⟩

theorem not_mem_intercalate {c : Char} {sep : List Char} {xss : List (List Char)} (hs : c ∉ sep)
    (hx : ∀ xs ∈ xss, c ∉ xs) : c ∉ sep.intercalate xss := by
  intro hc
  have hne := of_mem_intercalate (P := (· ≠ c)) (fun d hd => ne_of_mem_of_not_mem hd hs)
    (fun xs hxs d hd => ne_of_mem_of_not_mem hd (hx xs hxs))
  exact hne c hc rfl

theorem mem_intercalate {sep xs : List Char} {xss : List (List Char)} (h : xs ∈ xss) :
    ∀ c ∈ xs, c ∈ sep.intercalate xss := by
  induction xss with
  | nil => cases h
  | cons ys yss ih =>
    intro c hc
    cases yss with
    | nil =>
      rw [List.mem_singleton.mp h] at hc
      rwa [List.intercalate_singleton]
    | cons zs zss =>
      rw [List.intercalate_cons_cons]
      rcases List.mem_cons.mp h with rfl | h
      · exact List.mem_append_left _ (List.mem_append_left _ hc)
      · exact List.mem_append_right _ (ih h c hc)

section Each

variable {β γ : Type} {f : β → Option γ} {xs : List β}

/-- Parts that can all be read. -/
theorem mapM_eq_map {g : β → γ} (h : ∀ x ∈ xs, f x = some (g x)) :
    xs.mapM f = some (xs.map g) := by
  induction xs with
  | nil => rfl
  | cons x xs ih =>
    obtain ⟨hx, hxs⟩ := List.forall_mem_cons.mp h
    rw [List.mapM_cons, hx, ih hxs]
    rfl

/-- What is read from parts is read from one of them. -/
theorem exists_of_mem_mapM {ys : List γ} (h : xs.mapM f = some ys) {y : γ} (hy : y ∈ ys) :
    ∃ x ∈ xs, f x = some y := by
  induction xs generalizing ys with
  | nil =>
    cases h
    cases hy
  | cons x xs ih =>
    rw [List.mapM_cons] at h
    simp only [Option.bind_eq_bind, Option.bind_eq_some_iff] at h
    obtain ⟨z, hz, zs, hzs, h⟩ := h
    cases h
    rcases List.mem_cons.mp hy with rfl | hy
    · exact ⟨x, List.mem_cons_self, hz⟩
    · obtain ⟨w, hw, hf⟩ := ih hzs hy
      exact ⟨w, List.mem_cons_of_mem _ hw, hf⟩

end Each

/-! ## Scans -/

variable {α : Type} {match? : Option Char → List Char → Option (α × Nat)}

/-- The character before what follows a text. -/
def preceding (before : Option Char) : List Char → Option Char
  | [] => before
  | c :: cs => preceding (some c) cs

theorem preceding_append (before : Option Char) (xs ys : List Char) :
    preceding before (xs ++ ys) = preceding (preceding before xs) ys := by
  induction xs generalizing before with
  | nil => rfl
  | cons x xs ih => exact ih (some x)

theorem findFrom_skip (before : Option Char) (xs rest : List Char) :
    findFrom match? xs.length before (xs ++ rest) =
      findFrom match? 0 (preceding before xs) rest := by
  induction xs generalizing before with
  | nil => rfl
  | cons c cs ih => exact ih (some c)

theorem findFrom_found {before : Option Char} {xs rest : List Char} {a : α} (hx : xs ≠ [])
    (h : match? before (xs ++ rest) = some (a, xs.length)) :
    findFrom match? 0 before (xs ++ rest) =
      a :: findFrom match? 0 (preceding before xs) rest := by
  cases xs with
  | nil => exact absurd rfl hx
  | cons c cs =>
    rw [List.cons_append] at h
    rw [List.cons_append, findFrom, h]
    exact congrArg (a :: ·) (findFrom_skip (some c) cs rest)

theorem findFrom_pass {xs : List Char}
    (h : ∀ before, ∀ c ∈ xs, ∀ cs, match? before (c :: cs) = none) (before : Option Char)
    (rest : List Char) :
    findFrom match? 0 before (xs ++ rest) = findFrom match? 0 (preceding before xs) rest := by
  induction xs generalizing before with
  | nil => rfl
  | cons c cs ih =>
    rw [List.cons_append, findFrom, h before c (List.mem_cons_self ..)]
    exact ih (fun b d hd => h b d (List.mem_cons_of_mem _ hd)) (some c)

/-- Parts that are matches wherever `Fresh` holds of the character before, and separators
that are passed over and leave it so. -/
theorem findFrom_intercalate {β : Type} {Fresh : Option Char → Prop} {sep : List Char}
    {chars : β → List Char} {found : β → α}
    (hp : ∀ before, ∀ c ∈ sep, ∀ cs, match? before (c :: cs) = none)
    (hs : ∀ before, Fresh (preceding before sep)) (hn : ∀ b, chars b ≠ [])
    (hm : ∀ b before, Fresh before →
      ∀ rest, match? before (chars b ++ rest) = some (found b, (chars b).length))
    (bs : List β) {before : Option Char} (hb : Fresh before) (rest : List Char) :
    findFrom match? 0 before (sep.intercalate (bs.map chars) ++ rest) =
      bs.map found ++
        findFrom match? 0 (preceding before (sep.intercalate (bs.map chars))) rest := by
  induction bs generalizing before with
  | nil => rfl
  | cons b bs ih =>
    cases bs with
    | nil =>
      simp only [List.map_cons, List.map_nil, List.intercalate_singleton]
      exact findFrom_found (hn b) (hm b before hb rest)
    | cons b' bs' =>
      have hr := ih (hs (preceding before (chars b)))
      simp only [List.map_cons, List.intercalate_cons_cons, List.append_assoc, List.cons_append,
        preceding_append] at hr ⊢
      rw [findFrom_found (hn b) (hm b before hb _), findFrom_pass hp, hr]

/-- What a scan finds is a match at some place of the text. -/
theorem exists_of_mem_findFrom {skip : Nat} {before : Option Char} {cs : List Char} {a : α}
    (h : a ∈ findFrom match? skip before cs) :
    ∃ before' ds n, ds <:+ cs ∧ match? before' ds = some (a, n) := by
  induction cs generalizing skip before with
  | nil => simp [findFrom] at h
  | cons c cs ih =>
    have hr {skip : Nat} {before : Option Char} (h : a ∈ findFrom match? skip before cs) :
        ∃ before' ds n, ds <:+ c :: cs ∧ match? before' ds = some (a, n) := by
      obtain ⟨before', ds, n, hs, hm⟩ := ih h
      exact ⟨before', ds, n, hs.trans (List.suffix_cons c cs), hm⟩
    cases skip with
    | succ skip => exact hr h
    | zero =>
      rw [findFrom] at h
      split at h
      next found length hm =>
        rcases List.mem_cons.mp h with rfl | h
        · exact ⟨before, c :: cs, length, List.suffix_rfl, hm⟩
        · exact hr h
      next => exact hr h

/-- The places that a scan passes over, each with the character before. -/
def missesFrom (match? : Option Char → List Char → Option (α × Nat)) :
    Nat → Option Char → List Char → List (Option Char × List Char)
  | _, _, [] => []
  | skip + 1, _, c :: cs => missesFrom match? skip (some c) cs
  | 0, before, c :: cs =>
    match match? before (c :: cs) with
    | some (_, length) => missesFrom match? (length - 1) (some c) cs
    | none => (before, c :: cs) :: missesFrom match? 0 (some c) cs

/-- What follows a match does not matter, and a match stays within the text. -/
structure Settled (match? : Option Char → List Char → Option (α × Nat)) : Prop where
  append : ∀ {before cs a n}, match? before cs = some (a, n) →
    ∀ more, match? before (cs ++ more) = some (a, n)
  le : ∀ {before cs a n}, match? before cs = some (a, n) → n ≤ cs.length

theorem findFrom_append (hm : Settled match?) {skip : Nat} {before : Option Char}
    {xs more : List Char} (hk : skip ≤ xs.length)
    (h : ∀ p ∈ missesFrom match? skip before xs, match? p.1 (p.2 ++ more) = none) :
    findFrom match? skip before (xs ++ more) =
      findFrom match? skip before xs ++ findFrom match? 0 (preceding before xs) more := by
  induction xs generalizing skip before with
  | nil =>
    obtain rfl : skip = 0 := by
      simpa using hk
    rfl
  | cons c cs ih =>
    simp only [List.length_cons] at hk
    cases skip with
    | succ skip => exact ih (by omega) h
    | zero =>
      cases hf : match? before (c :: cs) with
      | some found =>
        have hl := hm.le hf
        have hs := hm.append hf more
        simp only [missesFrom, hf] at h
        simp only [List.length_cons] at hl
        simp only [List.cons_append] at hs ⊢
        simp only [findFrom, hs, hf, List.cons_append]
        exact congrArg (found.1 :: ·) (ih (by omega) h)
      | none =>
        simp only [missesFrom, hf, List.forall_mem_cons] at h
        have hs := h.1
        simp only [List.cons_append] at hs ⊢
        simp only [findFrom, hs, hf]
        exact ih (by omega) h.2

/-- A match that starts at a place which the first part passes over, and runs on. -/
theorem exists_findFrom_of_miss (hm : Settled match?) {skip : Nat} {before : Option Char}
    {xs more : List Char} (hk : skip ≤ xs.length)
    (h : ∃ p ∈ missesFrom match? skip before xs, match? p.1 (p.2 ++ more) ≠ none) :
    ∃ p ∈ missesFrom match? skip before xs, ∃ a n,
      match? p.1 (p.2 ++ more) = some (a, n) ∧ a ∈ findFrom match? skip before (xs ++ more) := by
  induction xs generalizing skip before with
  | nil => simp [missesFrom] at h
  | cons c cs ih =>
    simp only [List.length_cons] at hk
    cases skip with
    | succ skip => exact ih (by omega) h
    | zero =>
      cases hf : match? before (c :: cs) with
      | some found =>
        have hl := hm.le hf
        have hs := hm.append hf more
        simp only [missesFrom, hf] at h ⊢
        simp only [List.length_cons] at hl
        obtain ⟨p, hp, a, n, ha, hmem⟩ := ih (by omega) h
        refine ⟨p, hp, a, n, ha, ?_⟩
        simp only [List.cons_append] at hs ⊢
        simp only [findFrom, hs]
        exact List.mem_cons_of_mem _ hmem
      | none =>
        simp only [missesFrom, hf] at h ⊢
        cases hs : match? before (c :: cs ++ more) with
        | some found =>
          refine ⟨(before, c :: cs), List.mem_cons_self .., found.1, found.2, hs, ?_⟩
          simp only [List.cons_append] at hs ⊢
          simp [findFrom, hs]
        | none =>
          have hr : ∃ p ∈ missesFrom match? 0 (some c) cs, match? p.1 (p.2 ++ more) ≠ none := by
            obtain ⟨p, hp, hne⟩ := h
            rcases List.mem_cons.mp hp with rfl | hp
            · exact absurd hs hne
            · exact ⟨p, hp, hne⟩
          obtain ⟨p, hp, a, n, ha, hmem⟩ := ih (by omega) hr
          refine ⟨p, List.mem_cons_of_mem _ hp, a, n, ha, ?_⟩
          simp only [List.cons_append] at hs ⊢
          simpa [findFrom, hs] using hmem

end PolicyGuard.Text
