import Numscript.Proofs.Lexer.Break
import Numscript.Proofs.Lexer.Literal

/-!
# Texts that part at a line feed

A longest match is told by what stands before the next line feed: it stays the longest one in a text that
is the same up to a line feed. Comments are found in every mode, wherever a line feed ends them.
-/
namespace Numscript.Lexer

open Grammar (IsLexeme lexeme satisfies)

/-- The second text is the first one, or parts from it at a line feed. -/
def Parts (text text' : List Glyph) : Prop :=
  text' = text ∨ ∃ a b c, text = a ++ b ∧ text' = a ++ .lineFeed :: c

theorem Parts.append {text text' : List Glyph} (h : Parts text text') (w : List Glyph) :
    Parts (w ++ text) (w ++ text') := by
  rcases h with rfl | ⟨a, b, c, rfl, rfl⟩
  · exact .inl rfl
  · exact .inr ⟨w ++ a, b, c, by simp, by simp⟩

theorem parts_lineFeed (text c : List Glyph) : Parts text (.lineFeed :: c) :=
  .inr ⟨[], text, c, rfl, rfl⟩

/-- A longest match stays the longest one where the text behind it parts at a line feed. -/
theorem Residue.Munch.of_parts {mode : Nat} {t : Terminal} {text w rest rest' : List Glyph}
    (h : (initial mode).Munch text t w rest) (parts : Parts rest rest')
    (noStar : t = .slash → rest'.head? ≠ some Lexer.star) :
    (initial mode).Munch (w ++ rest') t w rest' where
  split := rfl
  fits := h.fits
  isLongest s w' behind split fits := by
    rcases parts with rfl | ⟨a, b, c, rfl, rfl⟩
    · exact h.isLongest s w' behind (h.split.trans split) fits
    · rw [← List.append_assoc] at split
      rcases List.append_eq_append_iff.1 split with ⟨m, rfl, hbehind⟩ | ⟨m, hfront, _⟩
      · cases m with
        | nil =>
          have hsplit : text = w ++ a ++ [] ++ b := by simpa using h.split
          exact h.isLongest s _ b hsplit fits
        | cons g m =>
          obtain rfl : Glyph.lineFeed = g := (List.cons.inj hbehind).1
          have hlexeme := (fits_initial_iff.1 fits).2
          rw [List.append_assoc] at hlexeme
          refine absurd hlexeme (not_isLexeme_over_lineFeed (fits_initial_iff.1 h.fits).2 ?_)
          intro hslash hstar
          refine noStar hslash ?_
          rw [List.head?_append, hstar]
          rfl
      · refine h.isLongest s w' (m ++ b) ?_ fits
        rw [h.split, ← List.append_assoc, hfront, List.append_assoc]
  isLeast := h.isLeast

/-- No text is a comment of both kinds, nor a comment and a token that comes before it. -/
theorem index_le_of_comment {c t : Terminal} (hc : c.isComment = true) {w : List Glyph}
    (h : IsLexeme c w) (h' : IsLexeme t w) : c.index ≤ t.index := by
  have hindex : ∀ t ∈ Terminal.all, t = .endOfText ∨ t = .lineComment ∨ 2 ≤ t.index := by decide
  have hend : t ≠ .endOfText := by
    rintro rfl
    exact not_isLexeme_endOfText h'
  have hboth : ¬(IsLexeme .lineComment w ∧ IsLexeme .multilineComment w) := by
    rintro ⟨hline, hlines⟩
    obtain ⟨v, rfl, _⟩ := exists_closing hlines
    obtain ⟨r, hr, hfits⟩ := Regular.fits_cons_iff_partials.1 hline
    obtain ⟨d, hd, hstar⟩ := Regular.exists_first hfits
    simp [partials_opening .lineComment (by decide) (by decide) r hr d hd] at hstar
  have ht := (hindex t (Terminal.mem_all t)).resolve_left hend
  cases c with
  | lineComment =>
    rcases ht with rfl | ht
    · exact Nat.le_refl _
    · exact Nat.le_of_lt ht
  | multilineComment =>
    rcases ht with rfl | ht
    · exact absurd ⟨h', h⟩ hboth
    · exact ht
  | _ => cases hc

theorem munch_comment {mode : Nat} {c : Terminal} {w rest : List Glyph} (hc : c.isComment = true)
    (h : IsLexeme c w) (ends : Ends rest) : (initial mode).Munch (w ++ rest) c w rest :=
  munch_of_ends ends (List.mem_filter.2 ⟨Terminal.mem_all c, by simp [hc]⟩) h
    fun _ _ h' => index_le_of_comment hc h h'

theorem solid_of_isLexeme {t : Terminal} {g : Glyph} {w : List Glyph} (h : IsLexeme t (g :: w)) :
    g.isBlank = false ∧ g ≠ .byteOrderMark := by
  have hall : ∀ t ∈ Terminal.all, ∀ c ∈ (lexeme t).firsts,
      c.apart blank = true ∧ satisfies c .byteOrderMark = false := by
    decide +kernel
  obtain ⟨c, hc, hg⟩ := Regular.exists_first h
  obtain ⟨hblank, hmark⟩ := hall t (Terminal.mem_all t) c hc
  refine ⟨not_isBlank_of_apart hblank hg, ?_⟩
  rintro rfl
  rw [hmark] at hg
  cases hg

end Numscript.Lexer
