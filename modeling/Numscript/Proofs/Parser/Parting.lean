import Numscript.Proofs.Lexer.Parting
import Numscript.Proofs.Parser.Lookahead
import Numscript.Proofs.Parser.Run

/-!
# Tokens that are found in a text that parts at a line feed

A token that a run has pushed is found as well where the text behind it parts from the first one at a line
feed, whatever gap stands before it. The one word that could turn out to begin a comment there is a slash
before a star, but behind a slash no run goes on with a star.
-/
namespace Numscript

open Automaton (leads?)

namespace Parser

open Lexer (Finds Parts body lead)
open Grammar (IsLexeme)

/-- Where nothing may be passed over: glyphs that are neither white space nor a byte order mark. -/
def Solid (rest : List Glyph) : Prop := ∀ g ∈ rest.head?, g.isBlank = false ∧ g ≠ .byteOrderMark

theorem solid_of_isLexeme {t : Terminal} {w : List Glyph} (h : IsLexeme t w) (rest : List Glyph) :
    Solid (w ++ rest) := by
  obtain ⟨g, w, rfl⟩ := List.exists_cons_of_ne_nil (Lexer.ne_nil_of_isLexeme h)
  intro g' hg'
  obtain rfl := Option.some.inj hg'
  exact Lexer.solid_of_isLexeme h

theorem IsGap.body_eq {before gap rest : List Glyph} (h : IsGap before gap) (solid : Solid rest) :
    body (Point.origin.behind before) (gap ++ rest) = rest := by
  obtain ⟨mark, blanks, rfl, hblanks, hmark⟩ := h
  have hpass : (blanks ++ rest).dropWhile (·.isBlank) = rest := by
    rw [List.dropWhile_append_of_pos hblanks]
    cases rest with
    | nil => rfl
    | cons g rest => rw [List.dropWhile_cons_of_neg (by simp [(solid g rfl).1])]
  have hunmarked : Lexer.unmarked (Point.origin.behind before) (mark ++ blanks ++ rest) =
      blanks ++ rest := by
    rcases hmark with rfl | ⟨rfl, rfl⟩
    · have hhead : (blanks ++ rest).head? ≠ some .byteOrderMark := by
        intro hhead
        cases blanks with
        | nil => exact (solid _ hhead).2 rfl
        | cons g blanks =>
          obtain rfl := Option.some.inj hhead
          exact absurd (hblanks _ List.mem_cons_self) (by decide)
      rw [List.nil_append, Lexer.unmarked, if_neg fun h => hhead h.2]
    · rw [Lexer.unmarked, if_pos ⟨rfl, rfl⟩]
      rfl
  rw [body, hunmarked, hpass]

theorem IsGap.lead_eq {before gap rest : List Glyph} (h : IsGap before gap) (solid : Solid rest) :
    lead (Point.origin.behind before) (gap ++ rest) = gap := by
  have happend := Lexer.lead_append_body (Point.origin.behind before) (gap ++ rest)
  rw [h.body_eq solid] at happend
  exact List.append_cancel_right happend

/-- A word that is the longest match is found behind a gap. -/
theorem IsGap.finds {mode : Nat} {t : Terminal} {before gap w rest : List Glyph}
    (h : IsGap before gap) (munch : (Lexer.initial mode).Munch (w ++ rest) t w rest) :
    Finds mode (Point.origin.behind before) (gap ++ (w ++ rest))
      ⟨t, Point.origin.behind (before ++ gap), Point.origin.behind (before ++ gap ++ w)⟩ := by
  have hsolid := solid_of_isLexeme (Lexer.fits_initial_iff.1 munch.fits).2 rest
  have hfinds : Finds mode (Point.origin.behind before) (gap ++ (w ++ rest)) _ :=
    .word ((h.body_eq hsolid).symm ▸ munch)
  rwa [h.lead_eq hsolid, ← Point.behind_append, ← Point.behind_append, ← List.append_assoc before] at hfinds

/-- The end of a text is found behind a gap. -/
theorem IsGap.ends {mode : Nat} {before gap : List Glyph} (h : IsGap before gap)
    (last : (Lexer.state mode).ends = true) : Finds mode (Point.origin.behind before) gap
      ⟨.endOfText, Point.origin.behind (before ++ gap), Point.origin.behind (before ++ gap)⟩ := by
  have hnone : Solid [] := nofun
  have hbody := h.body_eq hnone
  have hlead := h.lead_eq hnone
  rw [List.append_nil] at hbody hlead
  have hfinds := Finds.ends hbody last
  rwa [hlead, ← Point.behind_append] at hfinds

/-- The word of a token that is pushed behind a gap is the longest match there. -/
theorem Viable.munch_of_push {r : Reading} {before gap word rest : List Glyph} {token : Token}
    {stack : Stack} (hv : Viable r.stack) (place : r.point = Point.origin.behind before)
    (read : r.token? (gap ++ (word ++ rest)) = some token)
    (settles : Settles token r.stack (.pushed stack)) (isGap : IsGap before gap)
    (lexeme : IsLexeme token.kind word)
    (stop : token.stop = Point.origin.behind (before ++ gap ++ word)) :
    ∃ mode, Automaton.mode? r.stack.state = some mode ∧ Lexer.IsMode mode ∧
      (Lexer.initial mode).Munch (word ++ rest) token.kind word rest := by
  have hsolid := solid_of_isLexeme lexeme rest
  obtain ⟨mode, hmode, ismode, hfinds⟩ := Reading.finds hv read settles.acts
  rw [place] at hfinds
  cases hfinds with
  | ends => exact absurd rfl settles.kind_ne_endOfText
  | @word t w more munch =>
    rw [isGap.body_eq hsolid] at munch
    have hstop : Point.origin.behind (before ++ gap ++ w) =
        Point.origin.behind (before ++ gap ++ word) := by
      refine Eq.trans ?_ stop
      dsimp only
      rw [isGap.lead_eq hsolid, ← Point.behind_append, List.append_assoc]
    have hsplit : before ++ gap ++ w ++ more = before ++ gap ++ word ++ rest := by
      rw [List.append_assoc _ word, List.append_assoc _ w, munch.split]
    obtain ⟨hword, rfl⟩ := Point.eq_of_behind hsplit hstop
    obtain rfl := List.append_cancel_left hword
    exact ⟨mode, hmode, ismode, munch⟩

/-- Whether a slash was pushed last. -/
def Stack.BehindSlash (stack : Stack) : Prop :=
  ∃ f ∈ stack.head?, f.tree.symbol = .terminal .slash

theorem not_acts_star : ∀ q < Automaton.stateCount, ∀ n ∈ leads? q (.terminal .slash),
    Automaton.acts n .star = false := by
  decide +kernel

theorem eq_star_of_isLexeme {t : Terminal} {w : List Glyph} (h : IsLexeme t (Lexer.star :: w)) :
    t = .star := by
  have hall : ∀ t ∈ Terminal.all, t ≠ .star →
      ∀ c ∈ (Grammar.lexeme t).firsts, Grammar.satisfies c Lexer.star = false := by
    decide +kernel
  by_contra hne
  obtain ⟨c, hc, hstar⟩ := Regular.exists_first h
  rw [hall t (Terminal.mem_all t) hne c hc] at hstar
  cases hstar

/-- Where a star stands, the next token is the star. -/
theorem kind_eq_star {r : Reading} {rest : List Glyph} {token : Token} (hv : Viable r.stack)
    (read : r.token? (Lexer.star :: rest) = some token)
    (acts : Automaton.acts r.stack.state token.kind = true) : token.kind = .star := by
  have hbody : body r.point (Lexer.star :: rest) = Lexer.star :: rest := by
    have hblank : Glyph.isBlank Lexer.star = false := by decide
    have hmark : ¬(r.point.byte = 0 ∧ (Lexer.star :: rest).head? = some .byteOrderMark) := by
      rintro ⟨_, hmark⟩
      exact absurd (Option.some.inj hmark) (by decide)
    rw [body, Lexer.unmarked, if_neg hmark, List.dropWhile_cons_of_neg (by simp [hblank])]
  obtain ⟨mode, _, _, hfinds⟩ := Reading.finds hv read acts
  cases hfinds with
  | ends isOver =>
    rw [hbody] at isOver
    cases isOver
  | @word t w more munch =>
    have hlexeme := (Lexer.fits_initial_iff.1 munch.fits).2
    obtain ⟨g, w, rfl⟩ := List.exists_cons_of_ne_nil (Lexer.ne_nil_of_isLexeme hlexeme)
    obtain rfl : Lexer.star = g := (List.cons.inj (hbody.symm.trans munch.split)).1
    exact eq_star_of_isLexeme hlexeme

theorem Stack.BehindSlash.not_acts {stack : Stack} (h : stack.BehindSlash) (hv : Viable stack) :
    Automaton.acts stack.state .star = false := by
  obtain ⟨f, hf, hslash⟩ := h
  cases hv with
  | empty => cases hf
  | @comment _ tree _ hc =>
    obtain rfl := Option.some.inj hf
    cases tree with
    | leaf t => simp [Tree.isComment, Symbol.terminal.inj hslash, Terminal.isComment] at hc
    | node => cases hc
  | read below _ leads =>
    obtain rfl := Option.some.inj hf
    rw [hslash] at leads
    exact not_acts_star _ below.state_lt _ leads

/-- Behind a slash no run goes on before a star. -/
theorem Viable.head?_ne_star {r : Reading} {rest : List Glyph} {token : Token} {e : Ending}
    (hv : Viable r.stack) (behind : r.stack.BehindSlash) (read : r.token? rest = some token)
    (settles : Settles token r.stack e) : rest.head? ≠ some Lexer.star := by
  intro hstar
  obtain ⟨rest, rfl⟩ := List.head?_eq_some_iff.1 hstar
  have hacts := settles.acts
  rw [kind_eq_star hv read hacts, behind.not_acts hv] at hacts
  cases hacts

end Parser
end Numscript
