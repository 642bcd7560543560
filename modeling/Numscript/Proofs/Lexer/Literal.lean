import Numscript.Proofs.Lexer.Own

/-!
# Literal tokens

The keywords and the punctuation marks have one text each, no two of them the same, and none of them is a
comment. The other tokens have a rule of their own.
-/
namespace Numscript.Lexer

open Grammar (IsLexeme lexeme satisfies spelling?)

/-- The glyphs of a spelling. -/
def glyphs (spelling : String) : List Glyph := spelling.toList.map fun c => .char c.toNat

/-- Whether a token has one text only. -/
def isLiteral (t : Terminal) : Bool := (spelling? t).isSome

theorem satisfies_only_iff {c : Char} {g : Glyph} :
    satisfies (.only c) g = true ↔ g = .char c.toNat := by
  refine ⟨eq_of_satisfies_only, ?_⟩
  rintro rfl
  simp [satisfies, CharClass.only, CharClass.covers]

theorem fits_only_iff {c : Char} {w : List Glyph} :
    (Regular.one (CharClass.only c)).Fits satisfies w ↔ w = [.char c.toNat] := by
  constructor
  · rintro ⟨⟩
    next g h => rw [satisfies_only_iff.1 h]
  · rintro rfl
    exact .one (satisfies_only_iff.2 rfl)

theorem fits_letters_iff (cs : List Char) {w : List Glyph} :
    (Regular.sequence (cs.map fun c => .one (.only c))).Fits satisfies w ↔
      w = cs.map fun c => .char c.toNat := by
  induction cs generalizing w with
  | nil =>
    constructor
    · rintro ⟨⟩
      rfl
    · rintro rfl
      exact .done
  | cons c cs ih =>
    cases cs with
    | nil => exact fits_only_iff
    | cons d cs =>
      refine Regular.fits_seq_iff.trans ?_
      constructor
      · rintro ⟨u, v, rfl, hu, hv⟩
        rw [fits_only_iff.1 hu, ih.1 hv]
        rfl
      · rintro rfl
        exact ⟨[.char c.toNat], _, rfl, fits_only_iff.2 rfl, ih.2 rfl⟩

theorem lexeme_of_spelling {t : Terminal} {word : String} (h : spelling? t = some word) :
    lexeme t = Grammar.Lexeme.literal word := by
  cases t <;> cases h <;> rfl

theorem isLexeme_literal_iff {t : Terminal} {word : String} (h : spelling? t = some word)
    {w : List Glyph} : IsLexeme t w ↔ w = glyphs word := by
  rw [IsLexeme, lexeme_of_spelling h]
  exact fits_letters_iff word.toList

theorem spelling_injective {s t : Terminal} {v w : String} (hs : spelling? s = some v)
    (ht : spelling? t = some w) (h : glyphs v = glyphs w) : s = t := by
  have hall : ∀ s ∈ Terminal.all, ∀ t ∈ Terminal.all,
      (spelling? s).map glyphs = (spelling? t).map glyphs → s = t ∨ spelling? s = none := by
    decide +kernel
  have heq := hall s (Terminal.mem_all s) t (Terminal.mem_all t) (by simp [hs, ht, h])
  exact heq.resolve_right (by simp [hs])

theorem not_isLexeme_comment {c t : Terminal} (hc : c.isComment = true) {word : String}
    (ht : spelling? t = some word) : ¬ IsLexeme c (glyphs word) := by
  have hall : ∀ c ∈ Terminal.all, c.isComment = true → ∀ t ∈ Terminal.all, ∀ word ∈ spelling? t,
      (lexeme c).accepts satisfies (glyphs word) = false := by
    decide +kernel
  intro hlexeme
  have haccepts := hall c (Terminal.mem_all c) hc t (Terminal.mem_all t) word ht
  rw [Regular.accepts_iff.2 hlexeme] at haccepts
  cases haccepts

end Numscript.Lexer
