import Numscript.Proofs.Lexer.Moves
import Numscript.Proofs.Parser.Run
import Numscript.Proofs.Parser.Safety
import Numscript.Proofs.Trace.Search

/-!
# Termination

Parsing comes to an end on every text, and each part of it does so for a reason of its own. A run of the
lexer makes no more moves than there are glyphs, and one at the end of the text. The search for a token
behind text in which none starts passes over some of the text in every turn. A token that is pushed
takes room. And before one token the reductions of a stack make its potential less, whatever the token
is: a reduction of several children leaves fewer phrases, and one of a single child leads to a phrase
of a higher rank.
-/
namespace Numscript

namespace Parser

/-- A number of reductions in a row before a token, at a conflict too. -/
inductive Reductions (token : Token) : Nat → Stack → Stack → Prop where
  | refl (stack : Stack) : Reductions token 0 stack stack
  | reduce {n : Nat} {s t u : Stack} (h : step ground token s = .reduced t)
      (more : Reductions token n t u) : Reductions token (n + 1) s u
  | fork {n : Nat} {s pushed t u : Stack} (h : step ground token s = .forked pushed t)
      (more : Reductions token n t u) : Reductions token (n + 1) s u

/-- Before one token there are no more reductions than the potential of the stack allows. -/
theorem Viable.reductions_le {token : Token} {n : Nat} {s t : Stack} (h : Viable s)
    (hr : Reductions token n s t) : n + t.potential ≤ s.potential := by
  induction hr with
  | refl => exact Nat.le_of_eq (Nat.zero_add _)
  | @reduce n s t u hs more ih =>
    have hlt := h.potential_lt_of_reduced (.inl hs)
    have hle := ih (h.reduced hs)
    omega
  | @fork n s pushed t u hs more ih =>
    have hlt := h.potential_lt_of_reduced (.inr ⟨pushed, hs⟩)
    have hle := ih (h.forked hs).2
    omega

/-- Once there is enough fuel, more of it changes nothing. -/
theorem Viable.settle_fuel {token : Token} {s : Stack} {fuel fuel' : Nat} (h : Viable s)
    (hfuel : s.potential ≤ fuel) (hfuel' : s.potential ≤ fuel') :
    settle ground token fuel s = settle ground token fuel' s := by
  induction fuel generalizing s fuel' with
  | zero => exact absurd hfuel (Nat.not_le.2 s.potential_pos)
  | succ fuel ih =>
    cases fuel' with
    | zero => exact absurd hfuel' (Nat.not_le.2 s.potential_pos)
    | succ fuel' =>
      rw [settle, settle]
      cases hs : step ground token s with
      | shifted t => rfl
      | accepted root => rfl
      | refused => rfl
      | stuck => rfl
      | short => rfl
      | reduced t =>
        have hlt := h.potential_lt_of_reduced (.inl hs)
        exact ih (h.reduced hs) (by omega) (by omega)
      | forked pushed kept =>
        have hlt := h.potential_lt_of_reduced (.inr ⟨pushed, hs⟩)
        exact congrArg (_ :: ·) (ih (h.forked hs).2 (by omega) (by omega))

/-- Whatever parsing a text repeats, it repeats a bounded number of times. -/
structure Terminates (text : List Glyph) : Prop where
  /-- A run of the lexer, in any state and at any place, is over one move behind the end of the text
  at the latest, and stops where its moves end. -/
  lexer : ∀ q before rest, text = before ++ rest →
    (∀ n r left, Lexer.Moves n q rest r left → n ≤ rest.length + 1) ∧
    ∃ n r left, Lexer.Moves n q rest r left ∧ Lexer.Halted r left ∧
      (Lexer.scan q rest).stop + left.length = rest.length
  /-- The search for a token, where none starts, is further in the text in every turn, and ends where a token is
  found or the text ends. -/
  search : ∀ before rest, text = before ++ rest →
    let p := Point.origin.behind before
    let failed := Lexer.run Lexer.errorMode p rest
    Trace.Resumes p rest failed (Trace.unrecognized failed rest) ∧ Trace.Search p rest (Trace.resume 0 p rest)
  /-- A token that is pushed has at least one byte, and there are no more of them than glyphs. -/
  tokens : ∀ tokens r, Reads text tokens r → tokens.length ≤ text.length ∧
    ∀ token ∈ tokens, token.kind ≠ .endOfText ∧ token.start.byte < token.stop.byte ∧
      token.stop.byte ≤ Glyph.totalSize text
  /-- Any stack that is come to before some token sees a bounded number of reductions before any. -/
  reductions : ∀ stack before, Configuration text stack before → ∀ token n last,
    Reductions token n stack last → n ≤ reductionBound stack
  /-- The parser gives up no stack before its reductions are made. -/
  enough : ∀ stack before, Configuration text stack before → ∀ token fuel,
    reductionBound stack ≤ fuel →
      settle ground token fuel stack = settle ground token (reductionBound stack) stack

theorem byte_lt_of_spans {text : List Glyph} {token : Token} (h : token.Spans text) :
    token.start.byte < token.stop.byte ∧ token.stop.byte ≤ Glyph.totalSize text := by
  obtain ⟨before, word, after, rfl, hlexeme, hstart, hstop⟩ := h
  have hpos : 0 < Glyph.totalSize word := by
    rw [Nat.pos_iff_ne_zero]
    exact fun hzero => Lexer.ne_nil_of_isLexeme hlexeme (Glyph.eq_nil_of_totalSize hzero)
  have horigin : Point.origin.byte = 0 := rfl
  rw [hstart, hstop, Point.behind_byte, Point.behind_byte, Glyph.totalSize_append,
    Glyph.totalSize_append, Glyph.totalSize_append, horigin]
  omega

/-- Parsing terminates on every byte string. -/
theorem terminates_ofBytes (bytes : List UInt8) : Terminates (Glyph.ofBytes bytes) where
  lexer q before rest _ := by
    refine ⟨fun n r left h => h.length_le, ?_⟩
    obtain ⟨n, r, left, hmoves, hhalted, hstop⟩ := Lexer.exists_moves_scanFrom q 0 0 none rest
    exact ⟨n, r, left, hmoves, hhalted, by rw [Lexer.scan, hstop, Nat.zero_add]⟩
  search before rest _ := ⟨Trace.resumes_unrecognized _ rest, Trace.search_resume _ rest⟩
  tokens tokens r h := by
    obtain ⟨before, rest, split, _, hlaid⟩ := h.laid
    refine ⟨?_, fun token htoken => ?_⟩
    · have hle := hlaid.length_le
      rw [split, List.length_append]
      omega
    · obtain ⟨hkind, hspans⟩ := h.spans token htoken
      exact ⟨hkind, byte_lt_of_spans hspans⟩
  reductions stack before h token n last hr := by
    have hle := h.viable.reductions_le hr
    have hbound := stack.potential_le
    omega
  enough stack before h token fuel hfuel :=
    h.viable.settle_fuel (Nat.le_trans stack.potential_le hfuel) stack.potential_le

end Parser
end Numscript
