import Numscript.Proofs.Lexer.Alone
import Numscript.Proofs.Parser.Consume
import Numscript.Proofs.Parser.Parting

/-!
# Words that lie ahead

A text whose words are over before the next one begins. What the machine makes of the tokens, whatever the
text, a run over the text makes of the words: each of them is found by the state that acts on its token.
-/
namespace Numscript.Parser

open Automaton (acts)
open Grammar (IsLexeme spellsKeyword)

/-- The tokens that lie ahead of a place of a text, down to the end of the text. -/
inductive Ahead : (before rest : List Glyph) → List Token → Prop where
  | nil {before gap : List Glyph} (isGap : IsGap before gap) : Ahead before gap
      [⟨.endOfText, Point.origin.behind (before ++ gap), Point.origin.behind (before ++ gap)⟩]
  | cons {before gap word rest : List Glyph} {kind : Terminal} {tokens : List Token}
      (isGap : IsGap before gap) (plain : kind.isComment = false) (lexeme : IsLexeme kind word)
      (free : kind = .identifier → spellsKeyword word = false) (ends : Lexer.Ends rest)
      (behind : Ahead (before ++ gap ++ word) rest tokens) : Ahead before (gap ++ (word ++ rest))
        (⟨kind, Point.origin.behind (before ++ gap),
          Point.origin.behind (before ++ gap ++ word)⟩ :: tokens)

/-- A state that acts on a token has a mode, which finds the token where it stands alone. -/
theorem Viable.exists_finds {stack : Stack} {token : Token} {e : Ending} (hv : Viable stack)
    (settles : Settles token stack e) : ∃ s, Automaton.state? stack.state = some s ∧
      Automaton.mode? stack.state = some s.mode ∧ Lexer.IsMode s.mode ∧ s.finds token.kind = true := by
  obtain ⟨s, hs⟩ := hv.exists_state
  have hmode : Automaton.mode? stack.state = some s.mode := by rw [Automaton.mode?, hs]; rfl
  obtain ⟨page, hpage, hmem⟩ := Automaton.mem_pages_of_state? hs
  exact ⟨s, hs, hmode, Lexer.isMode_of_mem page hpage s hmem, Automaton.finds_of_acts hs settles.acts⟩

/-- What the machine accepts when it reads the tokens ahead, a run over the text accepts. -/
theorem Reads.accepts_of_ahead {text before rest : List Glyph} {tokens ahead : List Token}
    {r : Reading} {root : Tree} (h : Reads text tokens r) (split : text = before ++ rest)
    (place : r.point = Point.origin.behind before) (ha : Ahead before rest ahead)
    (consumes : Consumes ahead r.stack (.accepted root)) :
    ∃ more, Accepts text (tokens ++ more) root := by
  induction ha generalizing tokens r with
  | @nil before gap isGap =>
    cases consumes with
    | more _ rest => cases rest
    | last settles =>
      obtain ⟨s, hs, hmode, ismode, hfinds⟩ := h.viable.exists_finds settles
      have hends := Automaton.State.expects_of_finds hfinds
      rw [if_pos rfl] at hends
      have hread := Reading.token?_of_finds hmode ismode (place ▸ isGap.ends hends)
      cases settles.ends h.viable with
      | accepted completes accepts =>
        refine ⟨[], ?_⟩
        rw [List.append_nil]
        exact .mk h split place hread completes accepts
  | @cons before gap word rest kind ahead isGap plain lexeme free ends behind ih =>
    cases consumes with
    | last => cases behind
    | @more _ _ _ stack _ settles consumes =>
      obtain ⟨s, hs, hmode, ismode, _⟩ := h.viable.exists_finds settles
      have hmunch := Lexer.munch_of_acts hs plain settles.acts lexeme free ends
      have hread := Reading.token?_of_finds hmode ismode (place ▸ isGap.finds hmunch)
      cases settles.ends h.viable with
      | pushed pushes =>
        have hpush := Reads.push h split place hread pushes
        obtain ⟨more, haccepts⟩ := ih hpush (by simpa using split) rfl consumes
        exact ⟨_ :: more, by simpa using haccepts⟩

end Numscript.Parser
