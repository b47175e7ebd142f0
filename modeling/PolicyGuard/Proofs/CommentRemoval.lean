import Mathlib.Data.List.Flatten
import PolicyGuard.Proofs.CommentedLine

/-!
Removal of comments.

A text falls into pieces: strings between quotes, comments up to the ends of their lines, and single
characters. The comments are what is removed. The other pieces are a cut of what is left, so nothing
more goes when that is read.

* `Cut`: a text in pieces;
* `exists_cut`, `Cut.stripComments_eq`: every text has a cut, and any cut says what is left;
* `Cut.kept`: what is left, in pieces;
* `stripComments_stable`: removal once and twice.
-/

namespace PolicyGuard.Policy

/-- A piece of policy text. -/
inductive Piece where
  | plain (c : Char)
  | quoted (body : List Char)
  /-- A string that no quote ends. -/
  | unclosed (body : List Char)
  | comment (body : List Char)
  deriving DecidableEq, Repr

namespace Piece

def chars : Piece → List Char
  | plain c => [c]
  | quoted body => '"' :: (body ++ ['"'])
  | unclosed body => '"' :: body
  | comment body => '/' :: '/' :: body

def isComment : Piece → Bool
  | comment _ => true
  | _ => false

/-- The text of some pieces. -/
def joined (ps : List Piece) : List Char :=
  ps.flatMap chars

/-- The pieces that are no comments. -/
def kept (ps : List Piece) : List Piece :=
  ps.filter (!isComment ·)

theorem joined_cons (p : Piece) (ps : List Piece) : joined (p :: ps) = p.chars ++ joined ps :=
  List.flatMap_cons

theorem kept_kept (ps : List Piece) : kept (kept ps) = kept ps := by
  simp [kept]

theorem joined_kept_sublist (ps : List Piece) : (joined (kept ps)).Sublist (joined ps) :=
  List.filter_sublist.flatMap chars

end Piece

open Piece

/-- A text in pieces. Outside strings a quote starts a string and two slashes start a comment. A
string ends at the next quote, a comment before the next newline or where the text ends. -/
inductive Cut : List Piece → List Char → Prop
  | nil : Cut [] []
  | plain {c : Char} {ps : List Piece} {rest : List Char} (hq : c ≠ '"')
      (hs : c = '/' → rest.head? ≠ some '/') (h : Cut ps rest) : Cut (.plain c :: ps) (c :: rest)
  | quoted {body rest : List Char} {ps : List Piece} (hb : '"' ∉ body) (h : Cut ps rest) :
      Cut (.quoted body :: ps) ('"' :: (body ++ '"' :: rest))
  | unclosed {body : List Char} (hb : '"' ∉ body) : Cut [.unclosed body] ('"' :: body)
  | comment {body rest : List Char} {ps : List Piece} (hb : '\n' ∉ body)
      (hr : ∀ c ∈ rest.head?, c = '\n') (h : Cut ps rest) :
      Cut (.comment body :: ps) ('/' :: '/' :: (body ++ rest))

/-! ## Every text has a cut -/

theorem exists_cut_quote {rest : List Char}
    (shorter : ∀ tail : List Char, tail.length ≤ rest.length → ∃ ps, Cut ps tail) :
    ∃ ps, Cut ps ('"' :: rest) := by
  by_cases hm : '"' ∈ rest
  · obtain ⟨body, tail, rfl, hb⟩ := List.eq_append_cons_of_mem hm
    obtain ⟨ps, h⟩ := shorter tail (by simp; omega)
    exact ⟨_, .quoted hb h⟩
  · exact ⟨_, .unclosed hm⟩

theorem exists_cut_slashes {rest : List Char}
    (shorter : ∀ tail : List Char, tail.length ≤ rest.length → ∃ ps, Cut ps tail) :
    ∃ ps, Cut ps ('/' :: '/' :: rest) := by
  by_cases hm : '\n' ∈ rest
  · obtain ⟨body, tail, rfl, hb⟩ := List.eq_append_cons_of_mem hm
    obtain ⟨ps, h⟩ := shorter ('\n' :: tail) (by simp)
    exact ⟨_, .comment hb (by simp) h⟩
  · have h : Cut [.comment rest] ('/' :: '/' :: (rest ++ [])) := .comment hm (by simp) .nil
    rw [List.append_nil] at h
    exact ⟨_, h⟩

/-- By induction on the length: a string or a comment leaves a rest that is much shorter. -/
theorem exists_cut_of_length (n : Nat) :
    ∀ text : List Char, text.length ≤ n → ∃ ps, Cut ps text := by
  induction n with
  | zero =>
    intro text hn
    rw [List.length_eq_zero_iff.mp (Nat.le_zero.mp hn)]
    exact ⟨[], .nil⟩
  | succ n ih =>
    intro text hn
    cases text with
    | nil => exact ⟨[], .nil⟩
    | cons c rest =>
      have hlen : rest.length ≤ n := Nat.le_of_succ_le_succ hn
      by_cases hq : c = '"'
      · subst hq
        exact exists_cut_quote fun tail ht => ih tail (Nat.le_trans ht hlen)
      · by_cases hs : c = '/' ∧ rest.head? = some '/'
        · obtain ⟨rfl, hhead⟩ := hs
          obtain ⟨rest', rfl⟩ := List.head?_eq_some_iff.mp hhead
          have hrest : rest'.length ≤ n := Nat.le_of_succ_le hlen
          exact exists_cut_slashes fun tail ht => ih tail (Nat.le_trans ht hrest)
        · obtain ⟨ps, h⟩ := ih rest hlen
          exact ⟨_, .plain hq (fun hc hh => hs ⟨hc, hh⟩) h⟩

theorem exists_cut (text : List Char) : ∃ ps, Cut ps text :=
  exists_cut_of_length text.length text (Nat.le_refl _)

/-! ## What a cut says -/

theorem stripFrom_unclosed {body : List Char} (hb : '"' ∉ body) :
    stripFrom .quoted body = body := by
  induction body with
  | nil => rfl
  | cons c cs ih =>
    obtain ⟨hc, hcs⟩ : c ≠ '"' ∧ '"' ∉ cs := by
      simpa [eq_comm] using hb
    rw [stripFrom, if_neg hc, ih hcs]

theorem stripFrom_comment_end {body : List Char} (hb : '\n' ∉ body) :
    stripFrom .comment body = [] := by
  induction body with
  | nil => rfl
  | cons c cs ih =>
    obtain ⟨hc, hcs⟩ : c ≠ '\n' ∧ '\n' ∉ cs := by
      simpa [eq_comm] using hb
    rw [stripFrom, if_neg hc, ih hcs]

/-- A comment goes up to its end, where code starts again. -/
theorem stripFrom_comment_append {body rest : List Char} (hb : '\n' ∉ body)
    (hr : ∀ c ∈ rest.head?, c = '\n') :
    stripFrom .comment (body ++ rest) = stripFrom .code rest := by
  cases rest with
  | nil =>
    rw [List.append_nil, stripFrom_comment_end hb]
    rfl
  | cons c tail =>
    obtain rfl : c = '\n' := hr c rfl
    exact stripFrom_comment hb tail

namespace Cut

variable {ps : List Piece} {text : List Char}

theorem joined_eq (h : Cut ps text) : joined ps = text := by
  induction h with
  | nil => rfl
  | plain hq hs h ih =>
    rw [joined_cons, ih]
    rfl
  | quoted hb h ih => simp [joined_cons, chars, ih]
  | unclosed hb => simp [joined, chars]
  | comment hb hr h ih =>
    rw [joined_cons, ih]
    rfl

theorem stripComments_eq (h : Cut ps text) : stripComments text = joined (Piece.kept ps) := by
  unfold stripComments
  induction h with
  | nil => rfl
  | plain hq hs h ih =>
    rw [stripFrom_code_cons hs, if_neg hq, ih]
    rfl
  | @quoted body rest ps hb h ih =>
    have hv := verbatim_quoted hb rest
    rw [List.append_assoc] at hv
    show stripFrom .code ('"' :: body ++ (['"'] ++ rest)) = _
    rw [hv, ih]
    simp [Piece.kept, isComment, joined_cons, chars]
  | @unclosed body hb =>
    rw [stripFrom_code_cons fun hc => absurd hc (by decide), if_pos rfl, stripFrom_unclosed hb]
    simp [Piece.kept, isComment, joined, chars]
  | comment hb hr h ih =>
    show stripFrom .comment _ = _
    rw [stripFrom_comment_append hb hr, ih]
    rfl

/-- What is left starts as the text does, unless the text starts with a comment. -/
theorem head?_kept (h : Cut ps text) (ht : text.head? ≠ some '/') :
    (joined (Piece.kept ps)).head? = text.head? := by
  cases h with
  | nil => rfl
  | plain hq hs h => rfl
  | quoted hb h => rfl
  | unclosed hb => rfl
  | comment hb hr h => exact absurd rfl ht

/-- Without its comments a text has the same cut otherwise: no two slashes meet, for a newline or
the end of the text follows a comment. -/
theorem kept (h : Cut ps text) : Cut (Piece.kept ps) (joined (Piece.kept ps)) := by
  induction h with
  | nil => exact .nil
  | plain hq hs h ih =>
    refine .plain hq (fun hc => ?_) ih
    show (joined (Piece.kept _)).head? ≠ some '/'
    rw [h.head?_kept (hs hc)]
    exact hs hc
  | @quoted body rest ps hb h ih =>
    have hc := Cut.quoted hb ih
    simpa [Piece.kept, isComment, joined_cons, chars] using hc
  | unclosed hb =>
    have hc := Cut.unclosed hb
    simpa [Piece.kept, isComment, joined, chars] using hc
  | comment hb hr h ih => exact ih

/-- No newline is in a comment. -/
theorem count_newline (h : Cut ps text) :
    (joined (Piece.kept ps)).count '\n' = text.count '\n' := by
  induction h with
  | nil => rfl
  | @plain c ps rest hq hs h ih =>
    show (c :: joined (Piece.kept ps)).count '\n' = _
    rw [List.count_cons, List.count_cons, ih]
  | @quoted body rest ps hb h ih =>
    show (joined (.quoted body :: Piece.kept ps)).count '\n' = _
    simp [joined_cons, chars, ih]
  | unclosed hb => simp [Piece.kept, isComment, joined, chars]
  | @comment body rest ps hb hr h ih =>
    show (joined (Piece.kept ps)).count '\n' = _
    simp [ih, List.count_eq_zero.mpr hb]

end Cut

/-- **Removal of comments.** Every text has a cut, and what is left of the text is the text of the
pieces that are no comments: characters of the text in their order, with every newline. Removal
from what is left removes nothing, so the rules are those of the text. -/
theorem stripComments_stable (text : List Char) :
    (∃ ps, Cut ps text) ∧
      (∀ ps, Cut ps text → joined ps = text ∧ stripComments text = joined (kept ps)) ∧
      (stripComments text).Sublist text ∧
      (stripComments text).count '\n' = text.count '\n' ∧
      stripComments (stripComments text) = stripComments text ∧
      read (String.ofList (stripComments text)) = read (String.ofList text) := by
  obtain ⟨ps, h⟩ := exists_cut text
  have hleft := h.stripComments_eq
  have htext := h.joined_eq
  have hagain : stripComments (stripComments text) = stripComments text := by
    rw [hleft, h.kept.stripComments_eq, kept_kept]
  refine ⟨⟨ps, h⟩, fun qs hq => ⟨hq.joined_eq, hq.stripComments_eq⟩, ?_, ?_, hagain, ?_⟩
  · rw [hleft, ← htext]
    exact joined_kept_sublist ps
  · rw [hleft, h.count_newline]
  · rw [read, read, String.toList_ofList, String.toList_ofList, hagain]

/-- A slash before a string with slashes, a comment with a quote, and a string that does not end. -/
def scribble : List Char :=
  ['/', '"', '/', '/', '"', '/', '/', '"', '\n', '"', '/', '/']

theorem cut_scribble :
    Cut [.plain '/', .quoted ['/', '/'], .comment ['"'], .plain '\n', .unclosed ['/', '/']]
      scribble :=
  .plain (by decide) (by decide) <| .quoted (by decide) <|
    .comment (by decide) (by simp) <| .plain (by decide) (by decide) <| .unclosed (by decide)

theorem stripComments_scribble :
    Cut [.plain '/', .quoted ['/', '/'], .comment ['"'], .plain '\n', .unclosed ['/', '/']]
        scribble ∧
      stripComments scribble = ['/', '"', '/', '/', '"', '\n', '"', '/', '/'] ∧
      stripComments (stripComments scribble) = stripComments scribble := by
  obtain ⟨-, hcut, -, -, hagain, -⟩ := stripComments_stable scribble
  exact ⟨cut_scribble, (hcut _ cut_scribble).2, hagain⟩

end PolicyGuard.Policy
