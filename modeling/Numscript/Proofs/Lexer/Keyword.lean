import Numscript.Proofs.Lexer.Findable
import Numscript.Proofs.Lexer.Literal

/-!
# Keywords in context

Where a state acts on identifiers, its mode finds the keywords that the state acts on and no others. So a
word of small letters and underscores is read as a keyword exactly where that keyword may follow, and as an
identifier everywhere else.
-/
namespace Numscript

namespace Lexer

/-- The mode of a state that acts on identifiers, as far as it finds words. -/
structure FindsWords (q mode : Nat) : Prop where
  identifier : .identifier ∈ expected mode
  noAccount : .accountText ∉ expected mode
  keyword : ∀ k ∈ Grammar.keywords, k ∈ expected mode ↔ (Automaton.action? q k).isSome = true

end Lexer

namespace Automaton

open Grammar (keywords)

/-- Whether a state acts on a token. -/
def State.acts (s : State) (t : Terminal) : Bool := (s.shift? t).isSome || (s.reduction? t).isSome

/-- Whether the mode of a state that acts on identifiers finds no word that the state does not act on. -/
def State.keepsWords (s : State) : Bool :=
  !s.acts .identifier || !(Lexer.expectedTokens s.mode).contains .accountText &&
    keywords.all fun k => !(Lexer.expectedTokens s.mode).contains k || s.acts k

theorem keepsWords_of_mem : ∀ page ∈ pages, ∀ s ∈ page, s.keepsWords = true := by
  decide +kernel

theorem acts_eq_isSome {q : Nat} (hq : q ≠ recovery) (t : Terminal) :
    acts q t = (action? q t).isSome := by
  unfold acts
  by_cases hc : t.isComment = true
  · simp [action?, hc]
  by_cases he : q = final ∧ t = .endOfText
  · obtain ⟨rfl, rfl⟩ := he
    rfl
  have hend : (q = final && t = .endOfText) = false := by simpa using he
  rw [action?_of_plain hq (by simpa using hc) he, hend]
  cases hl : leads? q (.terminal t) <;> cases hr : reduction? q t <;> simp [hc]

theorem acts_of_state {q : Nat} {s : State} (hs : state? q = some s) {t : Terminal}
    (word : t ∈ .identifier :: keywords) : acts q t = s.acts t := by
  have hplain : ∀ t ∈ Terminal.identifier :: keywords, t.isComment = false ∧ t ≠ .endOfText := by
    decide
  obtain ⟨hc, he⟩ := hplain t word
  simp [acts, State.acts, leads?, reduction?, hs, State.leads?, hc, he]

end Automaton

namespace Lexer

open Automaton (mode? state? action? acts)
open Grammar (IsLexeme lexeme satisfies spelling? keywords)

/-- A text is the spelling of a keyword. -/
def Spells (k : Terminal) (w : List Glyph) : Prop := (spelling? k).map glyphs = some w

theorem spells_iff {k : Terminal} (hk : k ∈ keywords) {w : List Glyph} :
    Spells k w ↔ IsLexeme k w := by
  have hall : ∀ k ∈ keywords, (spelling? k).isSome = true := by decide
  obtain ⟨word, hword⟩ := Option.isSome_iff_exists.1 (hall k hk)
  rw [isLexeme_literal_iff hword, Spells, hword, Option.map_some, Option.some.injEq, eq_comm]

/-- The run of small letters and underscores at the start of a text. -/
def word (text : List Glyph) : List Glyph := text.takeWhile (satisfies .wordChar)

theorem fits_many_of_all {cls : CharClass} {w : List Glyph} (h : ∀ g ∈ w, satisfies cls g = true) :
    (Regular.many (.one cls)).Fits satisfies w := by
  induction w with
  | nil => exact .manyNil
  | cons g w ih =>
    rw [List.forall_mem_cons] at h
    exact .manyCons (.one h.1) (ih h.2)

theorem isLexeme_word {g : Glyph} {tail : List Glyph} (hg : satisfies .small g = true) :
    IsLexeme .identifier (word (g :: tail)) := by
  have hchar : satisfies .wordChar g = true := by
    cases g with
    | stray => cases hg
    | char code =>
      have hcode : CharClass.covers .small code = true := hg
      have hchar : CharClass.covers .wordChar code = true := by
        rw [CharClass.wordChar, CharClass.covers, List.any_append]
        exact Bool.or_eq_true_iff.2 (.inl hcode)
      exact hchar
  have hword : word (g :: tail) = [g] ++ tail.takeWhile (satisfies .wordChar) := by
    rw [word, List.takeWhile_cons_of_pos hchar]
    rfl
  rw [hword]
  exact .seq (@Regular.Fits.seq _ _ _ _ _ [g] [] (.one hg) .manyNil)
    (fits_many_of_all fun h hh => List.all_eq_true.1 List.all_takeWhile h hh)

theorem eq_of_small {t : Terminal} {g : Glyph} {w : List Glyph} (hg : satisfies .small g = true)
    (h : IsLexeme t (g :: w)) : t = .accountText ∨ t ∈ .identifier :: keywords := by
  have hall : ∀ t ∈ Terminal.all, ((lexeme t).firsts.all fun cls => cls.apart .small) = true ∨
      t = .accountText ∨ t ∈ .identifier :: keywords := by
    decide +kernel
  refine (hall t (Terminal.mem_all t)).resolve_left fun happart => ?_
  obtain ⟨cls, hcls, hsat⟩ := Regular.exists_first h
  exact not_satisfies_of_apart (List.all_eq_true.1 happart cls hcls) hsat hg

theorem wordChar_of_isLexeme {t : Terminal} (ht : t ∈ .identifier :: keywords) {w : List Glyph}
    (h : IsLexeme t w) : ∀ g ∈ w, satisfies .wordChar g = true := by
  have hall : ∀ t ∈ .identifier :: keywords, ∀ cls ∈ (lexeme t).letters, ∀ r ∈ cls,
      0x61 ≤ r.1 ∧ r.2 ≤ 0x7A ∨ r = (0x5F, 0x5F) := by
    decide +kernel
  intro g hg
  obtain ⟨code, rfl, cls, hcls, hcovers⟩ := exists_char_of_isLexeme h hg
  obtain ⟨r, hr, hcode⟩ := List.any_eq_true.1 hcovers
  simp only [Bool.and_eq_true, decide_eq_true_eq] at hcode
  have hrange := hall t ht cls hcls r hr
  have hword : CharClass.covers .wordChar code = true := by
    simp only [CharClass.wordChar, CharClass.small, CharClass.covers, List.any_append, List.any_cons,
      List.any_nil, Bool.or_false, Bool.or_eq_true, Bool.and_eq_true, decide_eq_true_eq]
    rcases hrange with hrange | rfl
    · exact .inl ⟨by omega, by omega⟩
    · exact .inr hcode
  exact hword

/-- A prefix of a text that is made of small letters and underscores is a part of its first word. -/
theorem length_le_word {w rest : List Glyph} (h : ∀ g ∈ w, satisfies .wordChar g = true) :
    w.length ≤ (word (w ++ rest)).length := by
  rw [word, List.takeWhile_append_of_pos h, List.length_append]
  omega

theorem findsWords {q mode : Nat} (hq : q ≠ Automaton.recovery) (hmode : mode? q = some mode)
    (h : (action? q .identifier).isSome = true) : FindsWords q mode := by
  obtain ⟨s, hs, rfl⟩ := Option.map_eq_some_iff.1 hmode
  obtain ⟨page, hpage, hmem⟩ := Automaton.mem_pages_of_state? hs
  have hexpected : ∀ t ∈ Terminal.identifier :: keywords, (action? q t).isSome = true →
      t ∈ expected s.mode := by
    intro t ht hacts
    rw [← Automaton.acts_eq_isSome hq] at hacts
    have hfinds := Automaton.State.expects_of_finds (Automaton.finds_of_acts hs hacts)
    have hne : ∀ t ∈ Terminal.identifier :: keywords, t ≠ .endOfText := by decide
    rwa [if_neg (hne t ht)] at hfinds
  have hidentifier := h
  rw [← Automaton.acts_eq_isSome hq, Automaton.acts_of_state hs List.mem_cons_self] at hidentifier
  have hkeeps := Automaton.keepsWords_of_mem page hpage s hmem
  simp only [Automaton.State.keepsWords, hidentifier, Bool.not_true, Bool.false_or, Bool.and_eq_true,
    Bool.not_eq_true', List.all_eq_true, Bool.or_eq_true, List.contains_eq_mem,
    decide_eq_false_iff_not] at hkeeps
  obtain ⟨hnoAccount, hkeyword⟩ := hkeeps
  refine ⟨hexpected _ List.mem_cons_self h, fun hmem => ?_, fun k hk => ⟨fun hmem => ?_, fun hacts => ?_⟩⟩
  · have hkept := (List.mem_filter.1 hmem).2
    exact hnoAccount (by simpa [Terminal.isComment] using hkept)
  · have hplain : ∀ k ∈ keywords, k.isComment = false := by decide
    have hkept := (List.mem_filter.1 hmem).2
    rw [← Automaton.acts_eq_isSome hq, Automaton.acts_of_state hs (List.mem_cons_of_mem _ hk)]
    exact (hkeyword k hk).resolve_left (by simpa [hplain k hk] using hkept)
  · exact hexpected k (List.mem_cons_of_mem _ hk) hacts

/-- A word is the longest match of a mode, for the first of the tokens that it is a lexeme of. -/
theorem munch_word {q mode : Nat} (finds : FindsWords q mode) {g : Glyph} {tail : List Glyph}
    (small : satisfies .small g = true) {t : Terminal} (ht : t ∈ expected mode)
    (lexeme : IsLexeme t (word (g :: tail)))
    (least : ∀ k ∈ .identifier :: keywords, k ∈ expected mode → IsLexeme k (word (g :: tail)) →
      t.index ≤ k.index) :
    (initial mode).Munch (g :: tail) t (word (g :: tail))
      ((g :: tail).dropWhile (satisfies .wordChar)) := by
  have hwords : ∀ {k : Terminal} {w rest : List Glyph}, g :: tail = w ++ rest →
      (initial mode).Fits k w → k ∈ Terminal.identifier :: keywords := by
    intro k w rest split fits
    obtain ⟨hk, hlexeme⟩ := fits_initial_iff.1 fits
    obtain ⟨g', w, rfl⟩ := List.exists_cons_of_ne_nil (ne_nil_of_isLexeme hlexeme)
    obtain rfl : g = g' := (List.cons.inj split).1
    refine (eq_of_small small hlexeme).resolve_left ?_
    rintro rfl
    exact finds.noAccount hk
  have hsplit : g :: tail = word (g :: tail) ++ (g :: tail).dropWhile (satisfies .wordChar) :=
    List.takeWhile_append_dropWhile.symm
  refine ⟨hsplit, fits_initial_iff.2 ⟨ht, lexeme⟩, fun k w rest split fits => ?_, fun k fits => ?_⟩
  · rw [split]
    exact length_le_word (wordChar_of_isLexeme (hwords split fits) (fits_initial_iff.1 fits).2)
  · obtain ⟨hk, hlexeme⟩ := fits_initial_iff.1 fits
    exact least k (hwords hsplit fits) hk hlexeme

/-- At a word a state that acts on identifiers finds the keyword that the word spells, if it acts on that
keyword, and otherwise the whole word as an identifier. -/
theorem exists_token_of_word {q mode : Nat} (hq : q ≠ Automaton.recovery) (hmode : mode? q = some mode)
    (hacts : (action? q .identifier).isSome = true) {p : Point} {text : List Glyph}
    (begins : ∃ g ∈ (body p text).head?, satisfies .small g = true) :
    ∃ t, (run mode p text).token? text = some ⟨t, p.behind (lead p text),
        p.behind (lead p text ++ word (body p text))⟩ ∧
      (∀ k ∈ keywords, t = k ↔ Spells k (word (body p text)) ∧ (action? q k).isSome = true) ∧
      ((∀ k ∈ keywords, ¬(Spells k (word (body p text)) ∧ (action? q k).isSome = true)) →
        t = .identifier) := by
  obtain ⟨g, hhead, small⟩ := begins
  obtain ⟨tail, hbody⟩ := List.head?_eq_some_iff.1 hhead
  have finds := findsWords hq hmode hacts
  have htoken : ∀ {t : Terminal}, (initial mode).Munch (g :: tail) t (word (g :: tail))
      ((g :: tail).dropWhile (satisfies .wordChar)) → (run mode p text).token? text =
        some ⟨t, p.behind (lead p text), p.behind (lead p text ++ word (g :: tail))⟩ := by
    intro t munch
    rw [← hbody] at munch ⊢
    exact token?_of_munch (isMode_of_mode? hmode) munch
  rw [hbody]
  by_cases hkeyword : ∃ k ∈ keywords, Spells k (word (g :: tail)) ∧ (action? q k).isSome = true
  · obtain ⟨k, hk, hspells, hact⟩ := hkeyword
    have honly : ∀ k' ∈ keywords, Spells k' (word (g :: tail)) → k = k' := by
      intro k' hk' hspells'
      obtain ⟨v, hv, hword⟩ := Option.map_eq_some_iff.1 hspells
      obtain ⟨v', hv', hword'⟩ := Option.map_eq_some_iff.1 hspells'
      exact spelling_injective hv hv' (hword.trans hword'.symm)
    have hfirst : ∀ k ∈ keywords, k.index ≤ Terminal.identifier.index := by decide
    refine ⟨k, htoken (munch_word finds small ((finds.keyword k hk).2 hact)
      ((spells_iff hk).1 hspells) fun k' hk' _ hlexeme => ?_), fun k' hk' => ⟨?_, fun h => ?_⟩,
      fun h => absurd ⟨hspells, hact⟩ (h k hk)⟩
    · rcases List.mem_cons.1 hk' with rfl | hk'
      · exact hfirst k hk
      · rw [honly k' hk' ((spells_iff hk').2 hlexeme)]
    · rintro rfl
      exact ⟨hspells, hact⟩
    · exact honly k' hk' h.1
  · have hnone : ∀ k ∈ keywords, ¬(Spells k (word (g :: tail)) ∧ (action? q k).isSome = true) :=
      fun k hk h => hkeyword ⟨k, hk, h⟩
    have hother : Terminal.identifier ∉ keywords := by decide
    refine ⟨.identifier, htoken (munch_word finds small finds.identifier (isLexeme_word small)
      fun k hk hexpected hlexeme => ?_), fun k hk => ⟨?_, fun h => absurd h (hnone k hk)⟩, fun _ => rfl⟩
    · rcases List.mem_cons.1 hk with rfl | hk
      · exact Nat.le_refl _
      · exact absurd ⟨(spells_iff hk).2 hlexeme, (finds.keyword k hk).1 hexpected⟩ (hnone k hk)
    · rintro rfl
      exact absurd hk hother

end Lexer
end Numscript
