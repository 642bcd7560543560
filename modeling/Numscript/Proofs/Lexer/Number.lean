import Numscript.Proofs.Lexer.Own

/-!
# Signs and numbers

A hyphen and a number behind it may be read as one negative number. Where it was read as an operator, the
digits behind it are the same number without its sign, or they begin a percentage that goes on behind them.
-/
namespace Numscript.Lexer

open Grammar (IsLexeme lexeme satisfies)

/-- The hyphen, an operator or a sign. -/
def hyphen : Glyph := .char 0x2D

/-- A number without a sign. -/
def unsigned : Regular CharClass :=
  .seq Grammar.Lexeme.digits (.many (.seq (Grammar.Lexeme.literal "_") Grammar.Lexeme.digits))

theorem isLexeme_minus {w : List Glyph} (h : IsLexeme .minus w) : w = [hyphen] := by
  cases h with
  | one h =>
    rw [eq_of_satisfies_only h]
    rfl

theorem number_of_unsigned {w : List Glyph} (h : unsigned.Fits satisfies w) : IsLexeme .number w :=
  .seq (v := []) (.right .done) h

theorem signed_of_unsigned {w : List Glyph} (h : unsigned.Fits satisfies w) :
    IsLexeme .number (hyphen :: w) :=
  .seq (v := [hyphen]) (.left (.one rfl)) h

theorem unsigned_of_signed {w : List Glyph} (h : IsLexeme .number (hyphen :: w)) :
    unsigned.Fits satisfies w := by
  have hpartials : (lexeme .number).partials satisfies hyphen = [unsigned] := by decide +kernel
  obtain ⟨s, hs, hfits⟩ := Regular.fits_cons_iff_partials.1 h
  rw [hpartials] at hs
  obtain rfl := List.mem_singleton.1 hs
  exact hfits

theorem exists_digit {w : List Glyph} (h : unsigned.Fits satisfies w) :
    ∃ g v, w = g :: v ∧ satisfies .digit g = true := by
  cases w with
  | nil =>
    have hnull := (Regular.fits_nil_iff _).1 h
    cases hnull
  | cons g v =>
    obtain ⟨a, ha, hg⟩ := Regular.exists_first h
    have hfirsts : unsigned.firsts = [CharClass.digit] := rfl
    rw [hfirsts] at ha
    obtain rfl := List.mem_singleton.1 ha
    exact ⟨g, v, rfl, hg⟩

theorem unsigned_of_digit {g : Glyph} {w : List Glyph} (hg : satisfies .digit g = true)
    (h : IsLexeme .number (g :: w)) : unsigned.Fits satisfies (g :: w) := by
  obtain ⟨u, v, hw, hu, hv⟩ := Regular.fits_seq_iff.1 h
  rcases Regular.fits_alt_iff.1 hu with hu | hu
  · cases hu with
    | one hb =>
      obtain ⟨rfl, -⟩ := List.cons.inj hw
      cases g with
      | stray => cases hb
      | char code =>
        exact (not_covers_of_apart (c := .only '-') (d := .digit) (by decide) hb hg).elim
  · cases hu
    rw [List.nil_append] at hw
    rw [hw]
    exact hv

/-- What goes on behind the digits of a percentage. -/
def portionTail : Regular CharClass :=
  .seq (.optional (.seq (Grammar.Lexeme.literal ".") Grammar.Lexeme.digits)) (Grammar.Lexeme.literal "%")

theorem not_number_of_tail {g : Glyph} {v w : List Glyph} (hg : g ∈ w) (h : IsLexeme .number w)
    (ht : portionTail.Fits satisfies (g :: v)) : False := by
  obtain ⟨a, ha, hag⟩ := Regular.exists_letter h hg
  obtain ⟨b, hb, hbg⟩ := Regular.exists_first ht
  have happart : ∀ a ∈ (lexeme .number).letters, ∀ b ∈ portionTail.firsts, a.apart b = true := by
    decide +kernel
  cases g with
  | stray => cases hag
  | char code => exact not_covers_of_apart (happart a ha b hb) hag hbg

/-- Where a number is the longest one and a percentage begins there as well, that goes on behind it. -/
theorem portion_of_number {text v w rest rest' : List Glyph} (hv : IsLexeme .percentagePortion v)
    (hw : IsLexeme .number w) (split : text = v ++ rest) (split' : text = w ++ rest')
    (longest : ∀ u tail, text = u ++ tail → IsLexeme .number u → u.length ≤ w.length) :
    w.length < v.length ∧ ∃ g tail, rest' = g :: tail ∧
      ∃ b ∈ portionTail.firsts, satisfies b g = true := by
  obtain ⟨u, more, rfl, hu, hmore⟩ := Regular.fits_seq_iff.1 hv
  have hnumber : IsLexeme .number u := by
    refine number_of_unsigned ?_
    have hunsigned : unsigned.Fits satisfies (u ++ []) := .seq hu .manyNil
    rwa [List.append_nil] at hunsigned
  obtain ⟨g, tail, rfl⟩ : ∃ g tail, more = g :: tail := by
    cases more with
    | nil =>
      have hnull := (Regular.fits_nil_iff _).1 hmore
      cases hnull
    | cons g tail => exact ⟨g, tail, rfl⟩
  have hle := longest u (g :: tail ++ rest) (by rw [split, List.append_assoc]) hnumber
  have heq : u ++ (g :: tail ++ rest) = w ++ rest' := by
    rw [← split', split, List.append_assoc]
  have hsame : w = u := by
    rcases List.append_eq_append_iff.1 heq with ⟨mid, hmid, hrest⟩ | ⟨mid, hmid, hrest⟩
    · cases mid with
      | nil => simpa using hmid
      | cons g' mid =>
        obtain ⟨rfl, -⟩ := List.cons.inj hrest
        exact (not_number_of_tail (by simp [hmid]) hw hmore).elim
    · have hlength := congrArg List.length hmid
      rw [List.length_append] at hlength
      have hnil : mid = [] := List.length_eq_zero_iff.1 (by omega)
      rw [hmid, hnil, List.append_nil]
  subst hsame
  refine ⟨by simp, g, tail ++ rest, (List.append_cancel_left heq).symm, ?_⟩
  exact Regular.exists_first hmore

end Numscript.Lexer
