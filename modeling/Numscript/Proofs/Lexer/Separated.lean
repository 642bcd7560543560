import Numscript.Proofs.Lexer.Own

/-!
# Words that are followed by a line feed

No lexeme goes on over a line feed behind another lexeme: only a comment over several lines contains one
at all, and such a comment is over with the first star and slash. So a word that is followed by a line feed
or by nothing is found as soon as it is a lexeme of an expected token, and of none that comes before it.
-/
namespace Numscript.Lexer

open Grammar (IsLexeme lexeme satisfies)
open Grammar.Lexeme (notStar notStarSlash stars)

/-- The star and the slash that end a comment over several lines. -/
def star : Glyph := .char 0x2A

def slash : Glyph := .char 0x2F

/-- Reads on inside a comment and tells whether a star was read last; nothing where the comment ends. -/
def reopen? : (starred : Bool) → List Glyph → Option Bool
  | starred, [] => some starred
  | starred, g :: rest => if starred && g = slash then none else reopen? (g = star) rest

theorem reopen?_append (starred : Bool) (v w : List Glyph) :
    reopen? starred (v ++ w) = (reopen? starred v).bind (reopen? · w) := by
  induction v generalizing starred with
  | nil => rfl
  | cons g v ih =>
    rw [List.cons_append, reopen?, reopen?]
    split
    · rfl
    · exact ih _

theorem reopen?_notStar {w : List Glyph} (h : (Regular.many (.one notStar)).Fits satisfies w) :
    reopen? false w = some false := by
  generalize hr : Regular.many (.one notStar) = r at h
  induction h with
  | manyNil => rfl
  | manyCons hv _ _ ih =>
    cases hr
    cases hv with
    | @one _ g hg =>
      have hne : g ≠ star := by
        rintro rfl
        cases hg
      rw [List.singleton_append, reopen?]
      simpa [hne] using ih rfl
  | _ => cases hr

theorem reopen?_stars {starred : Bool} {w : List Glyph} (h : stars.Fits satisfies w) :
    reopen? starred w = some true := by
  have hmany : ∀ {v : List Glyph}, (Regular.many (.one (.only '*'))).Fits satisfies v →
      reopen? true v = some true := by
    intro v hv
    generalize hr : Regular.many (.one (CharClass.only '*')) = r at hv
    induction hv with
    | manyNil => rfl
    | manyCons hv _ _ ih =>
      cases hr
      cases hv with
      | one hg =>
        rw [eq_of_satisfies_only hg]
        exact ih rfl
    | _ => cases hr
  obtain ⟨u, v, rfl, hu, hv⟩ := Regular.fits_seq_iff.1 h
  cases hu with
  | one hg =>
    rw [eq_of_satisfies_only hg, List.singleton_append, reopen?]
    have hne : Glyph.char '*'.toNat ≠ slash := by decide
    rw [if_neg fun hboth => hne (by simpa using (Bool.and_eq_true_iff.1 hboth).2)]
    exact hmany hv

theorem exists_closing {w : List Glyph} (h : IsLexeme .multilineComment w) :
    ∃ v, w = slash :: star :: v ++ [slash] ∧ reopen? false v = some true := by
  obtain ⟨a, w₁, rfl, ha, h₁⟩ := Regular.fits_seq_iff.1 h
  obtain ⟨b, w₂, rfl, hb, h₂⟩ := Regular.fits_seq_iff.1 h₁
  obtain ⟨c, w₃, rfl, hc, h₃⟩ := Regular.fits_seq_iff.1 h₂
  obtain ⟨d, e, rfl, hd, he⟩ := Regular.fits_seq_iff.1 h₃
  have hopens : a = [slash, star] := by
    obtain ⟨x, y, rfl, hx, hy⟩ := Regular.fits_seq_iff.1 ha
    cases hx with
    | one hx =>
      cases hy with
      | one hy =>
        rw [eq_of_satisfies_only hx, eq_of_satisfies_only hy]
        rfl
  have hcloses : e = [slash] := by
    cases he with
    | one he =>
      rw [eq_of_satisfies_only he]
      rfl
  have hparts : ∀ {v : List Glyph}, (Regular.many (.sequence [.one notStarSlash,
      .many (.one notStar), stars])).Fits satisfies v → reopen? true v = some true := by
    intro v hv
    generalize hr : Regular.many (.sequence [.one notStarSlash, .many (.one notStar), stars]) = r at hv
    induction hv with
    | manyNil => rfl
    | manyCons hv _ _ ih =>
      cases hr
      obtain ⟨x, y, rfl, hx, hy⟩ := Regular.fits_seq_iff.1 hv
      obtain ⟨y, z, rfl, hy, hz⟩ := Regular.fits_seq_iff.1 hy
      cases hx with
      | @one _ g hg =>
        have hslash : g ≠ slash := by
          rintro rfl
          cases hg
        have hstar : g ≠ star := by
          rintro rfl
          cases hg
        rw [reopen?_append, reopen?_append, reopen?, if_neg (by simp [hslash]), reopen?]
        simp only [hstar, decide_false, Option.bind_some]
        rw [reopen?_append, reopen?_notStar hy, Option.bind_some, reopen?_stars hz,
          Option.bind_some]
        exact ih rfl
    | _ => cases hr
  refine ⟨b ++ (c ++ d), by simp [hopens, hcloses], ?_⟩
  rw [reopen?_append, reopen?_notStar hb, Option.bind_some, reopen?_append, reopen?_stars hc,
    Option.bind_some, hparts hd]

theorem not_isLexeme_behind_comment {g : Glyph} {w z : List Glyph}
    (hw : IsLexeme .multilineComment w) : ¬ IsLexeme .multilineComment (w ++ g :: z) := by
  intro h
  obtain ⟨u, rfl, hu⟩ := exists_closing hw
  obtain ⟨v, hv, hopen⟩ := exists_closing h
  obtain ⟨z, last, hz⟩ : ∃ y last, g :: z = y ++ [last] :=
    ⟨_, _, (List.dropLast_concat_getLast (List.cons_ne_nil g z)).symm⟩
  rw [hz, ← List.append_assoc] at hv
  have hinit := (List.append_inj' hv rfl).1
  have hlong : u ++ [slash] ++ z = v := by simpa using hinit
  rw [← hlong, reopen?_append, reopen?_append, hu] at hopen
  cases hopen

theorem letters_lineFeed : ∀ t ∈ Terminal.all, t ≠ .multilineComment →
    ∀ c ∈ (lexeme t).letters, satisfies c .lineFeed = false := by
  decide +kernel

theorem partials_opening : ∀ t ∈ Terminal.all, t ≠ .multilineComment →
    ∀ r ∈ (lexeme t).partials satisfies slash, ∀ c ∈ r.firsts, satisfies c star = false := by
  decide +kernel

theorem eq_slash_of_isLexeme {t : Terminal} (h : IsLexeme t [slash]) : t = .slash := by
  have hall : ∀ t ∈ Terminal.all, ((lexeme t).partials satisfies slash).any (·.nullable) = true →
      t = .slash := by
    decide +kernel
  obtain ⟨r, hr, hfits⟩ := Regular.fits_cons_iff_partials.1 h
  exact hall t (Terminal.mem_all t) (List.any_eq_true.2 ⟨r, hr, (Regular.fits_nil_iff r).1 hfits⟩)

/-- A line feed behind a lexeme, near or far, is no part of it: only a slash that is followed by a star
could turn out to begin a comment. -/
theorem not_isLexeme_over_lineFeed {s t : Terminal} {w a z : List Glyph} (hw : IsLexeme s w)
    (noStar : s = .slash → a.head? ≠ some star) : ¬ IsLexeme t (w ++ (a ++ .lineFeed :: z)) := by
  intro h
  obtain ⟨c, hc, hfeed⟩ := Regular.exists_letter h
    (List.mem_append_right w (List.mem_append_right a List.mem_cons_self))
  have ht : t = .multilineComment := by
    by_contra hne
    simp [letters_lineFeed t (Terminal.mem_all t) hne c hc] at hfeed
  subst ht
  obtain ⟨v, hv, _⟩ := exists_closing h
  cases w with
  | nil => exact ne_nil_of_isLexeme hw rfl
  | cons b w =>
    obtain rfl : b = slash := (List.cons.inj hv).1
    have htail := (List.cons.inj hv).2
    cases w with
    | nil =>
      refine noStar (eq_slash_of_isLexeme hw) ?_
      have hne : Glyph.lineFeed ≠ star := by decide
      cases a with
      | nil => exact absurd (List.cons.inj htail).1 hne
      | cons g a => exact congrArg some (List.cons.inj htail).1
    | cons b w =>
      obtain rfl : b = star := (List.cons.inj htail).1
      have hs : s = .multilineComment := by
        by_contra hne
        obtain ⟨r, hr, hfits⟩ := Regular.fits_cons_iff_partials.1 hw
        obtain ⟨d, hd, hstar⟩ := Regular.exists_first hfits
        simp [partials_opening s (Terminal.mem_all s) hne r hr d hd] at hstar
      subst hs
      obtain ⟨g, a, ha⟩ := List.exists_cons_of_ne_nil
        (List.append_ne_nil_of_right_ne_nil a (List.cons_ne_nil Glyph.lineFeed z))
      rw [ha] at h
      exact not_isLexeme_behind_comment hw h

/-- What stands behind a word that is over. -/
def Ends (rest : List Glyph) : Prop := ∀ g ∈ rest.head?, g = .lineFeed

/-- A word that is over is the longest match, if no other token comes first. -/
theorem munch_of_ends {mode : Nat} {t : Terminal} {w rest : List Glyph} (hends : Ends rest)
    (expects : t ∈ expected mode) (lexeme : IsLexeme t w)
    (least : ∀ s ∈ expected mode, IsLexeme s w → t.index ≤ s.index) :
    (initial mode).Munch (w ++ rest) t w rest where
  split := rfl
  fits := fits_initial_iff.2 ⟨expects, lexeme⟩
  isLongest s w' rest' split fits := by
    obtain ⟨_, hw'⟩ := fits_initial_iff.1 fits
    rcases List.append_eq_append_iff.1 split with ⟨m, rfl, hrest⟩ | ⟨m, rfl, _⟩
    · cases m with
      | nil => simp
      | cons g m =>
        obtain rfl := hends g (by rw [hrest]; rfl)
        exact absurd hw' (not_isLexeme_over_lineFeed (a := []) lexeme (by simp))
    · simp
  isLeast s fits := by
    obtain ⟨hs, hlexeme⟩ := fits_initial_iff.1 fits
    exact least s hs hlexeme

/-- A longest match is one as well when it is over. -/
theorem Residue.Munch.ends {mode : Nat} {t : Terminal} {text w rest rest' : List Glyph}
    (h : (initial mode).Munch text t w rest) (hends : Ends rest') :
    (initial mode).Munch (w ++ rest') t w rest' := by
  obtain ⟨expects, lexeme⟩ := fits_initial_iff.1 h.fits
  exact munch_of_ends hends expects lexeme fun s hs hlexeme =>
    h.isLeast s (fits_initial_iff.2 ⟨hs, hlexeme⟩)

end Numscript.Lexer
