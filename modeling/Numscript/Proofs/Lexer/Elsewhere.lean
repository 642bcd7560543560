import Numscript.Proofs.Automaton.Statement
import Numscript.Proofs.Lexer.Keyword
import Numscript.Proofs.Lexer.Parting
import Numscript.Proofs.Parser.Parting
import Numscript.Proofs.Tree.Moved

/-!
# Tokens that are found elsewhere

A token is found in the same way behind another text, and by other modes: a comment by every mode, and a
token that may begin a statement by the mode of every state that such a token completes a statement in.
-/
namespace Numscript

open Automaton (acts mode? start programWords closers)

namespace Automaton

/-- The mode that the first token of a text is read in. -/
def firstMode : Nat := 130

/-- The modes that are met where a statement may begin or end. -/
def closingModes : List Nat := [firstMode, 260, 263, 265, 266]

theorem mode?_of_closing : ∀ q ∈ List.range stateCount, acts q .kwSend = true → ∀ m ∈ mode? q,
    m ∈ closingModes ∧ (m = firstMode ↔ q = start) := by
  decide +kernel

/-- Where a statement may begin the tokens that may begin it are told apart from all else in the same way,
but for the declaration of the variables. -/
theorem alike_of_closing : ∀ m ∈ closingModes, ∀ m' ∈ closingModes, (m' = firstMode → m = firstMode) →
    ∀ t ∈ closers, t ≠ .endOfText → ∀ a ∈ Lexer.expected m',
      a ∈ Lexer.expected m ∨ Lexer.apart a t = true := by
  decide +kernel

end Automaton

namespace Lexer

open Grammar (IsLexeme lexeme satisfies)

theorem eq_slash_of_first : ∀ t ∈ Terminal.all, t.isComment = false → t ≠ .slash →
    ∀ cls ∈ (lexeme t).firsts, satisfies cls slash = false := by
  decide +kernel

theorem head_of_comment {t : Terminal} (comment : t.isComment = true) {w : List Glyph}
    (h : IsLexeme t w) : w.head? = some slash := by
  have hall : ∀ t ∈ Terminal.all, t.isComment = true → ∀ cls ∈ (lexeme t).firsts,
      cls = .only '/' := by
    decide +kernel
  obtain ⟨g, w, rfl⟩ := List.exists_cons_of_ne_nil (ne_nil_of_isLexeme h)
  obtain ⟨cls, hcls, hg⟩ := Regular.exists_first h
  rw [hall t (Terminal.mem_all t) comment cls hcls] at hg
  rw [eq_of_satisfies_only hg]
  rfl

/-- A comment that one mode finds is found by every mode. -/
theorem Finds.comment {mode mode' : Nat} {p : Point} {text : List Glyph} {token : Token}
    (h : Finds mode p text token) (comment : token.kind.isComment = true) :
    Finds mode' p text token := by
  cases h with
  | ends => cases comment
  | @word t w rest munch =>
    have hlexeme := (fits_initial_iff.1 munch.fits).2
    have hexpected : ∀ {m : Nat} {t : Terminal}, t.isComment = true → t ∈ expected m := by
      intro m t ht
      exact List.mem_filter.2 ⟨Terminal.mem_all t, by simp [ht]⟩
    have hhead := head_of_comment comment hlexeme
    refine .word ⟨munch.split, fits_initial_iff.2 ⟨hexpected comment, hlexeme⟩,
      fun a v behind split fits => ?_, fun a fits => ?_⟩
    · have hv := (fits_initial_iff.1 fits).2
      cases ha : a.isComment with
      | true => exact munch.isLongest a v behind split (fits_initial_iff.2 ⟨hexpected ha, hv⟩)
      | false =>
        obtain ⟨g, v, rfl⟩ := List.exists_cons_of_ne_nil (ne_nil_of_isLexeme hv)
        obtain ⟨g', w, rfl⟩ := List.exists_cons_of_ne_nil (ne_nil_of_isLexeme hlexeme)
        obtain rfl : g = g' := (List.cons.inj (split.symm.trans munch.split)).1
        obtain rfl : g = slash := Option.some.inj hhead
        have hslash : a = .slash := by
          by_contra hne
          obtain ⟨cls, hcls, hg⟩ := Regular.exists_first hv
          rw [eq_slash_of_first a (Terminal.mem_all a) ha hne cls hcls] at hg
          cases hg
        subst hslash
        rw [isLexeme_literal_iff (by rfl : Grammar.spelling? .slash = some "/")] at hv
        have hlength : (glyphs "/").length = 1 := by decide
        rw [hv, hlength]
        exact Nat.le_add_left 1 w.length
    · exact index_le_of_comment comment hlexeme (fits_initial_iff.1 fits).2

/-- What a mode finds in a text, it finds where the text stands behind another one and a gap. -/
theorem Finds.behind {mode : Nat} {before rest front gap : List Glyph} {token : Token} {origin : Point}
    (h : Finds mode (Point.origin.behind before) rest token) (isGap : Parser.IsGap front gap)
    (unmarked : before = [] → rest.head? ≠ some .byteOrderMark)
    (place : ∀ w, Point.origin.behind (front ++ gap ++ w) =
      (Point.origin.behind (before ++ w)).moved origin) :
    Finds mode (Point.origin.behind front) (gap ++ rest) (token.moved origin) := by
  obtain ⟨mark, blanks, hlead, blank, hmark⟩ := @Parser.isGap_lead before rest
  have hnone : mark = [] := by
    refine hmark.resolve_right ?_
    rintro ⟨rfl, rfl⟩
    have hsplit := lead_append_body (Point.origin.behind []) rest
    rw [hlead] at hsplit
    exact unmarked rfl (by rw [← hsplit]; rfl)
  rw [hnone, List.nil_append] at hlead
  have hgap : Parser.IsGap front (gap ++ lead (Point.origin.behind before) rest) := by
    obtain ⟨mark', blanks', rfl, hblank', hmark'⟩ := isGap
    exact ⟨mark', blanks' ++ _, List.append_assoc .., List.forall_mem_append.2 ⟨hblank', hlead ▸ blank⟩,
      hmark'⟩
  have hrest := lead_append_body (Point.origin.behind before) rest
  cases h with
  | ends isOver last =>
    rw [isOver, List.append_nil] at hrest
    have hfinds := hgap.ends last
    rw [← List.append_assoc, place] at hfinds
    rw [Token.moved, ← Point.behind_append]
    rw [hrest] at hfinds ⊢
    exact hfinds
  | @word t w more munch =>
    have hfinds := hgap.finds (munch.split ▸ munch)
    rw [← munch.split, List.append_assoc gap, hrest, ← List.append_assoc front, place,
      List.append_assoc _ _ w, place] at hfinds
    rw [Token.moved, ← Point.behind_append, ← Point.behind_append]
    exact hfinds

end Lexer
end Numscript
