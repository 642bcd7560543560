import Numscript.Proofs.Ambiguity
import Numscript.Proofs.Lexer.Break
import Numscript.Proofs.Parser.Copy

/-!
# Runs over a text that is laid out again

The words of a run are spread over another text, with breaks before, between and behind them. A run over
that text finds the same tokens one by one, and it comes to copies of the stacks of the first run. So it
accepts a copy of the tree.
-/
namespace Numscript

namespace Parser

open Glyph (IsBreak)

variable {text text' : List Glyph}

/-- A run goes on with a copy of the token that another run has gone on with, where it is found. -/
theorem Reads.push_copy {tokens : List Token} {r r' : Reading} {before rest : List Glyph}
    {token token' : Token} {stack : Stack} {mode : Nat} (h : Reads text' tokens r')
    (split : text' = before ++ rest) (place : r'.point = Point.origin.behind before)
    (copies : Stack.Copies text text' r.stack r'.stack) (copy : token.Copies text text' token')
    (hmode : Automaton.mode? r.stack.state = some mode) (ismode : Lexer.IsMode mode)
    (finds : Lexer.Finds mode r'.point rest token') (settles : Settles token r.stack (.pushed stack)) :
    ∃ stack', Reads text' (tokens ++ [token']) ⟨stack', token'.stop⟩ ∧
      Stack.Copies text text' stack stack' := by
  rw [← copies.state_eq] at hmode
  have hread := Reading.token?_of_finds hmode ismode finds
  obtain ⟨e, hsettles, hcopies⟩ := settles.copies copies copy
  cases hcopies with
  | pushed hcopies =>
    cases hsettles.ends h.viable with
    | pushed pushes => exact ⟨_, .push h split place hread pushes, hcopies⟩

/-- The words of some tokens of a text, with a break before each. -/
inductive Spread (text : List Glyph) : List Token → List Glyph → Prop
  | nil : Spread text [] []
  | snoc {front gap : List Glyph} {tokens : List Token} {token : Token}
      (before : Spread text tokens front) (isBreak : IsBreak gap) :
      Spread text (tokens ++ [token]) (front ++ gap ++ token.word text)

theorem Spread.eq_nil {front : List Glyph} (h : Spread text [] front) : front = [] := by
  generalize ht : ([] : List Token) = all at h
  cases h with
  | nil => rfl
  | snoc => simp at ht

theorem Spread.exists_last {tokens : List Token} {token : Token} {front : List Glyph}
    (h : Spread text (tokens ++ [token]) front) : ∃ front' gap, Spread text tokens front' ∧
      IsBreak gap ∧ front = front' ++ gap ++ token.word text := by
  generalize ht : tokens ++ [token] = all at h
  cases h with
  | nil => simp at ht
  | snoc before isBreak =>
    obtain ⟨rfl, hlast⟩ := List.append_inj' ht rfl
    obtain rfl := List.cons.inj hlast |>.1
    exact ⟨_, _, before, isBreak, rfl⟩

/-- A run over a text can be repeated where its words are spread. -/
theorem Reads.spread {tokens : List Token} {r : Reading} {front rest : List Glyph}
    (h : Reads text tokens r) (hs : Spread text tokens front) (split : text' = front ++ rest)
    (ends : Lexer.Ends rest) : ∃ tokens' r', Reads text' tokens' r' ∧
      r'.point = Point.origin.behind front ∧ Stack.Copies text text' r.stack r'.stack := by
  induction h generalizing front rest with
  | start =>
    obtain rfl := hs.eq_nil
    exact ⟨[], _, .start, rfl, .nil⟩
  | @push tokens r before rest₀ token stack reached split₀ place read pushes ih =>
    obtain ⟨front', gap, hfront, hgap, rfl⟩ := hs.exists_last
    have hv := reached.viable
    have hsettles := (Ends.pushed pushes).settles hv
    obtain ⟨mode, hmode, ismode, hfinds⟩ := Reading.finds hv read hsettles.acts
    cases hfinds with
    | ends => exact absurd rfl hsettles.kind_ne_endOfText
    | @word t w more munch =>
      have hword : Token.word text ⟨t, r.point.behind (Lexer.lead r.point rest₀),
          r.point.behind (Lexer.lead r.point rest₀ ++ w)⟩ = w := by
        have hsplit₀ : text = before ++ (Lexer.lead r.point rest₀ ++ w ++ more) := by
          rw [List.append_assoc, ← munch.split, Lexer.lead_append_body, split₀]
        exact word_of_place hsplit₀ place rfl rfl
      rw [hword] at split ⊢
      have hsplit : text' = front' ++ (gap ++ (w ++ rest)) := by simpa using split
      obtain ⟨tokens', r', hreads, hplace, hcopies⟩ := ih hfront hsplit (.of_break hgap)
      have hfound := munch.finds_behind (p := r'.point) hgap ends
      have hcopy : Token.Copies text text' ⟨t, r.point.behind (Lexer.lead r.point rest₀),
          r.point.behind (Lexer.lead r.point rest₀ ++ w)⟩
          ⟨t, r'.point.behind gap, r'.point.behind (gap ++ w)⟩ := by
        refine ⟨rfl, ?_⟩
        have hsplit' : text' = front' ++ (gap ++ w ++ rest) := by simpa using hsplit
        exact Eq.trans (word_of_place hsplit' hplace rfl rfl) hword.symm
      obtain ⟨stack', hpushed, hstack⟩ :=
        hreads.push_copy hsplit hplace hcopies hcopy hmode ismode hfound hsettles
      refine ⟨_, _, hpushed, ?_, hstack⟩
      rw [List.append_assoc, Point.behind_append Point.origin, ← hplace]

/-- A run that accepts can be repeated where its words are spread, and accepts a copy. -/
theorem Accepts.spread {tokens : List Token} {root : Tree} {front gap : List Glyph}
    (h : Accepts text tokens root) (hs : Spread text tokens front) (hgap : IsBreak gap) :
    ∃ root', Recognises (front ++ gap) root' ∧ Copy text (front ++ gap) root root' := by
  obtain @⟨r, before, rest, token, stack, _, reads, split, place, read, completes, accepts⟩ := h
  have hv := reads.viable
  have hsettles := (Ends.accepted completes accepts).settles hv
  have hkind := hsettles.kind_of_accepted
  obtain ⟨mode, hmode, ismode, hfinds⟩ := Reading.finds hv read hsettles.acts
  have hends : Lexer.Ends gap := List.append_nil gap ▸ @Lexer.Ends.of_break gap [] hgap
  obtain ⟨tokens', r', hreads, hplace, hcopies⟩ := reads.spread hs rfl hends
  have hmode' := hcopies.state_eq ▸ hmode
  cases hfinds with
  | @word t w more munch =>
    obtain rfl : t = .endOfText := hkind
    exact absurd (Lexer.fits_initial_iff.1 munch.fits).2 Lexer.not_isLexeme_endOfText
  | ends isOver last =>
    have hbody : Lexer.body r'.point gap = [] := by
      simpa using @Lexer.body_of_break r'.point gap [] hgap (by simp)
    have hread := Reading.token?_of_finds hmode' ismode (.ends hbody last)
    have hcopy : Token.Copies text (front ++ gap)
        ⟨.endOfText, r.point.behind (Lexer.lead r.point rest), r.point.behind (Lexer.lead r.point rest)⟩
        ⟨.endOfText, r'.point.behind (Lexer.lead r'.point gap),
          r'.point.behind (Lexer.lead r'.point gap)⟩ :=
      ⟨rfl, by rw [Glyph.between_self, Glyph.between_self]⟩
    obtain ⟨e, hsettles', hcopied⟩ := hsettles.copies hcopies hcopy
    cases hcopied with
    | accepted copy =>
      cases hsettles'.ends hreads.viable with
      | accepted completes' accepts' =>
        exact ⟨_, .accept hreads.reaches rfl hplace hread completes' accepts', copy⟩

/-- A program whose words are spread is parsed to a copy of its tree. -/
theorem parse_spread {tokens : List Token} {root : Tree} {front gap : List Glyph}
    (h : parse text = .valid root) (haccepts : Accepts text tokens root)
    (hs : Spread text tokens front) (hgap : IsBreak gap) :
    ∃ root', parse (front ++ gap) = .valid root' ∧ Copy text (front ++ gap) root root' := by
  obtain ⟨root', hrecognises, hcopy⟩ := haccepts.spread hs hgap
  exact ⟨root', hrecognises.parse_eq fun hlone => not_lone_of_parse h (hcopy.lone hlone), hcopy⟩

end Parser
end Numscript
