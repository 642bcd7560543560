import Numscript.Proofs.Lexer.Separated

/-!
# Breaks

White space that begins with a line feed. Wherever it stands, a mode passes over it and nothing else, and
a word that it follows is over.
-/
namespace Numscript

/-- White space that begins with a line feed. -/
def Glyph.IsBreak (gap : List Glyph) : Prop :=
  gap.head? = some .lineFeed ∧ ∀ g ∈ gap, g.isBlank = true

namespace Lexer

open Glyph (IsBreak)

theorem Ends.of_break {gap rest : List Glyph} (h : IsBreak gap) : Ends (gap ++ rest) := by
  intro g hg
  rw [List.head?_append, h.1] at hg
  exact (Option.some.inj hg).symm

theorem body_of_break {p : Point} {gap rest : List Glyph} (h : IsBreak gap)
    (solid : ∀ g ∈ rest.head?, g.isBlank = false) : body p (gap ++ rest) = rest := by
  have hmark : unmarked p (gap ++ rest) = gap ++ rest := by
    have hne : Glyph.lineFeed ≠ .byteOrderMark := by decide
    rw [unmarked, List.head?_append, h.1, if_neg fun hmark => hne (Option.some.inj hmark.2)]
  rw [body, hmark, List.dropWhile_append_of_pos h.2]
  cases rest with
  | nil => rfl
  | cons g rest => rw [List.dropWhile_cons_of_neg (by simp [solid g rfl])]

theorem lead_of_break {p : Point} {gap rest : List Glyph} (h : IsBreak gap)
    (solid : ∀ g ∈ rest.head?, g.isBlank = false) : lead p (gap ++ rest) = gap := by
  have happend := lead_append_body p (gap ++ rest)
  rw [body_of_break h solid] at happend
  exact List.append_cancel_right happend

/-- A token that a mode finds is found behind a break as well, if it is over. -/
theorem Residue.Munch.finds_behind {mode : Nat} {t : Terminal} {p q : Point}
    {text gap w rest rest' : List Glyph} (h : (initial mode).Munch (body q text) t w rest)
    (hgap : IsBreak gap) (hends : Ends rest') :
    Finds mode p (gap ++ (w ++ rest')) ⟨t, p.behind gap, p.behind (gap ++ w)⟩ := by
  have hsolid : ∀ g ∈ (w ++ rest').head?, g.isBlank = false := by
    intro g hg
    refine body_head q text g ?_
    rw [h.split]
    cases w with
    | nil => exact absurd rfl (ne_nil_of_isLexeme (fits_initial_iff.1 h.fits).2)
    | cons g' w => exact hg
  have hbody := body_of_break (p := p) hgap hsolid
  have hfinds : Finds mode p (gap ++ (w ++ rest')) _ := .word (hbody ▸ h.ends hends)
  rwa [lead_of_break hgap hsolid] at hfinds

end Lexer
end Numscript
