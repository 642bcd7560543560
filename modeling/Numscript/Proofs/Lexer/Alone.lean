import Numscript.Proofs.Lexer.Literal
import Numscript.Proofs.Lexer.Number
import Numscript.Proofs.Lexer.Separated

/-!
# Words alone on their lines

A lexeme of a token that a state acts on is found there where a line feed or the end of the text ends it,
unless it is an identifier that is spelled like a keyword: no other token that the mode expects, and that
comes before it, has this lexeme.
-/
namespace Numscript

namespace Lexer

open Grammar (IsLexeme lexeme satisfies spelling? keywords spellsKeyword)

/-- Whether no text is a lexeme of both of two tokens, as far as the first letters, the spelling of the
first token or the sign behind a percentage tell. -/
def distinct (s t : Terminal) : Bool :=
  apart s t || s = .number && t = .percentagePortion ||
    match spelling? s with
    | some word => !(lexeme t).accepts satisfies (glyphs word)
    | none => false

theorem not_isLexeme_of_distinct {s t : Terminal} (h : distinct s t = true) {w : List Glyph}
    (hs : IsLexeme s w) (ht : IsLexeme t w) : False := by
  simp only [distinct, Bool.or_eq_true, Bool.and_eq_true, decide_eq_true_eq] at h
  rcases h with (h | ⟨rfl, rfl⟩) | h
  · obtain ⟨g, w, rfl⟩ := List.exists_cons_of_ne_nil (ne_nil_of_isLexeme hs)
    exact not_isLexeme_of_apart h hs ht
  · obtain ⟨u, v, rfl, _, hv⟩ := Regular.fits_seq_iff.1 ht
    cases v with
    | nil => cases (Regular.fits_nil_iff _).1 hv
    | cons g v => exact not_number_of_tail (by simp) hs hv
  · cases hword : spelling? s with
    | none => simp [hword] at h
    | some word =>
      rw [isLexeme_literal_iff hword] at hs
      subst hs
      simp [hword, Regular.accepts_iff.2 ht] at h

/-- The tokens with a lower number that a mode expects are distinct, but for keywords and identifiers. -/
theorem distinct_of_expected : ∀ mode ∈ List.range stateCount, mode ≠ errorMode →
    (state mode).skips = true → ∀ t ∈ expected mode, ∀ s ∈ expected mode, s.index < t.index →
      distinct s t = true ∨ t.isComment = true ∨ t = .identifier ∧ s ∈ keywords ∨
        s.isComment = true ∧ isLiteral t = true := by
  decide +kernel

theorem spellsKeyword_of_isLexeme {k : Terminal} (hk : k ∈ keywords) {w : List Glyph}
    (h : IsLexeme k w) : spellsKeyword w = true := by
  have hall : ∀ k ∈ keywords, (spelling? k).isSome = true := by decide
  obtain ⟨word, hword⟩ := Option.isSome_iff_exists.1 (hall k hk)
  refine List.any_eq_true.2 ⟨k, hk, ?_⟩
  rw [hword]
  exact decide_eq_true ((isLexeme_literal_iff hword).1 h)

/-- A lexeme that is over is found in every mode but the error mode that expects its token. -/
theorem munch_alone {mode : Nat} {t : Terminal} {w rest : List Glyph} (ismode : IsMode mode)
    (own : mode ≠ errorMode) (plain : t.isComment = false) (expects : t ∈ expected mode)
    (lexeme : IsLexeme t w) (free : t = .identifier → spellsKeyword w = false) (ends : Ends rest) :
    (initial mode).Munch (w ++ rest) t w rest := by
  refine munch_of_ends ends expects lexeme fun s hs hlexeme => ?_
  by_contra hlt
  have hmode : mode < stateCount := by
    by_contra hle
    rw [IsMode, state_of_le (Nat.le_of_not_lt hle)] at ismode
    cases ismode
  rcases distinct_of_expected mode (List.mem_range.2 hmode) own ismode t expects s hs
    (Nat.lt_of_not_le hlt) with h | h | ⟨rfl, hk⟩ | ⟨hc, hliteral⟩
  · exact not_isLexeme_of_distinct h hlexeme lexeme
  · rw [plain] at h
    cases h
  · rw [spellsKeyword_of_isLexeme hk hlexeme] at free
    cases free rfl
  · obtain ⟨word, hword⟩ := Option.isSome_iff_exists.1 hliteral
    rw [isLexeme_literal_iff hword] at lexeme
    subst lexeme
    exact not_isLexeme_comment hc hword hlexeme

end Lexer

namespace Automaton

theorem errorMode_of_mem : ∀ page ∈ pages, ∀ s ∈ page, s.mode = Lexer.errorMode →
    s.shifts.isEmpty = true ∧ s.reductions.isEmpty = true := by
  decide +kernel

/-- A state that acts on a token reads it in a mode of its own. -/
theorem mode_ne_errorMode {q : Nat} {s : State} {t : Terminal} (hs : state? q = some s)
    (plain : t.isComment = false) (more : t ≠ .endOfText) (h : acts q t = true) :
    s.mode ≠ Lexer.errorMode := by
  intro hmode
  obtain ⟨page, hpage, hmem⟩ := mem_pages_of_state? hs
  obtain ⟨hshifts, hreductions⟩ := errorMode_of_mem page hpage s hmem hmode
  rw [List.isEmpty_iff] at hshifts hreductions
  simp [acts, plain, more, leads?, reduction?, hs, State.leads?, State.shift?, State.reduction?, hshifts,
    hreductions] at h

end Automaton

namespace Lexer

open Grammar (IsLexeme spellsKeyword)

/-- A lexeme that is over is found by a state that acts on its token. -/
theorem munch_of_acts {q : Nat} {s : Automaton.State} {t : Terminal} {w rest : List Glyph}
    (hs : Automaton.state? q = some s) (plain : t.isComment = false)
    (hacts : Automaton.acts q t = true) (lexeme : IsLexeme t w)
    (free : t = .identifier → spellsKeyword w = false) (ends : Ends rest) :
    (initial s.mode).Munch (w ++ rest) t w rest := by
  have hmore : t ≠ .endOfText := by
    rintro rfl
    exact not_isLexeme_endOfText lexeme
  obtain ⟨page, hpage, hmem⟩ := Automaton.mem_pages_of_state? hs
  have hexpects := Automaton.State.expects_of_finds (Automaton.finds_of_acts hs hacts)
  rw [if_neg hmore] at hexpects
  exact munch_alone (isMode_of_mem page hpage s hmem)
    (Automaton.mode_ne_errorMode hs plain hmore hacts) plain hexpects lexeme free ends

/-- In the mode of the first state a name is found, but `send` is not found as a name. -/
example : distinct .kwSend .number = true ∧ distinct .kwSend .identifier = false := by
  decide +kernel

end Lexer
end Numscript
