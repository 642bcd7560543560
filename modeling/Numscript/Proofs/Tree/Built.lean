import Numscript.Proofs.Parser.Frontier
import Numscript.Grammar.Derivation

/-!
# Well-built trees

A tree is well built when every phrase in it is one of the productions of the grammar, and every token
spans one of its lexemes in the text. Every tree that the machine has on its stack is well built,
because a reduction takes children off the stack that make up a production.
-/
namespace Numscript

open Grammar (productions IsLexeme)
open Automaton (Reduction reduction?)

/-- A token spans one of its lexemes in a text. -/
def Token.Spans (text : List Glyph) (token : Token) : Prop :=
  ∃ before word after, text = before ++ word ++ after ∧ IsLexeme token.kind word ∧
    token.start = Point.origin.behind before ∧ token.stop = Point.origin.behind (before ++ word)

/-- The word that a token spans. -/
abbrev Token.word (text : List Glyph) (t : Token) : List Glyph :=
  Glyph.between t.start.byte t.stop.byte text

/-- Children with their roles are what a production asks for. -/
structure MakesUp (phrase : Nonterminal) (layout : Layout) (children : List Symbol) : Prop where
  items : layout.items children ∈ productions phrase
  children : Reduction.children (layout.items children) = children

/-- All phrases of a tree are productions, and all tokens span lexemes. -/
inductive Tree.Built (text : List Glyph) : Tree → Prop where
  | leaf {token : Token} (spans : token.Spans text) : Built text (.leaf token)
  | node {phrase : Nonterminal} {layout : Layout} {children : List Tree}
      (makes : MakesUp phrase layout (Tree.structural children))
      (below : ∀ c ∈ children, Built text c) : Built text (.node phrase layout children)

namespace Parser

theorem Fill.length {r : Reduction} {count : Nat} {children : List Tree}
    (h : Fill r count children) : (Tree.structural children).length = count := by
  simpa using List.Forall₂.length_eq h

/-- The children that a reduction takes off the stack make up a production. -/
theorem Fill.makesUp {r : Reduction} {q : Nat} {t : Terminal} {children : List Tree}
    (hr : reduction? q t = some r) (h : Fill r r.arity children) :
    MakesUp r.phrase r.layout (Tree.structural children) :=
  let hmem := Automaton.items_mem_productions hr h
  ⟨hmem.1, hmem.2⟩

/-- All trees of a stack are well built. -/
def Stack.Built (text : List Glyph) (stack : Stack) : Prop := ∀ f ∈ stack, f.tree.Built text

theorem Stack.Built.reduces {text : List Glyph} {q : Nat} {t : Terminal} {r : Reduction}
    {stack kept : Stack} (h : stack.Built text) (hr : reduction? q t = some r)
    (hreduces : Reduces r stack kept) : Stack.Built text kept := by
  refine hreduces.forall_frames h (fun f hf _ _ => h f hf) fun _ _ fill below => ?_
  refine .node (fill.makesUp hr) fun c hc => ?_
  obtain ⟨f, hf, rfl⟩ := below c hc
  exact h f ((List.dropWhile_sublist _).subset hf)

theorem Stack.Built.cons {text : List Glyph} {stack : Stack} (h : stack.Built text) {f : Frame}
    (hf : f.tree.Built text) : Stack.Built text (f :: stack) := by
  intro g hg
  rcases List.mem_cons.1 hg with rfl | hg
  · exact hf
  · exact h g hg

theorem Viable.built_completes {text : List Glyph} {token : Token} {s t : Stack} (hv : Viable s)
    (h : s.Built text) (hc : Completes token s t) : t.Built text :=
  hv.completes_keeps hc h fun _ asks reduces h => h.reduces asks reduces

theorem Viable.built_pushes {text : List Glyph} {token : Token} {s t : Stack} (hv : Viable s)
    (h : s.Built text) (spans : token.Spans text) (hp : Pushes token s t) : t.Built text := by
  obtain ⟨u, next, completes, _, rfl, _⟩ := hv.exists_push hp
  exact (hv.built_completes h completes).cons (.leaf spans)

/-- A token that a reading pushes spans one of its lexemes. -/
theorem spans_of_pushes {text before rest : List Glyph} {r : Reading} {token : Token}
    {stack : Stack} (hv : Viable r.stack) (split : text = before ++ rest)
    (place : r.point = Point.origin.behind before) (read : r.token? rest = some token)
    (pushes : Pushes token r.stack stack) : token.Spans text := by
  obtain ⟨hstart, ⟨hkind, _⟩ | ⟨w, more, hbody, hlexeme, hstop⟩⟩ := Reading.token?_spec hv read
  · exact absurd hkind (hv.kind_ne_endOfText pushes)
  · refine ⟨before ++ Lexer.lead r.point rest, w, more, ?_, hlexeme, ?_, ?_⟩
    · rw [split, List.append_assoc, List.append_assoc, ← hbody, Lexer.lead_append_body]
    · rw [hstart, Point.behind_append Point.origin, ← place]
    · rw [hstop, List.append_assoc, Point.behind_append Point.origin, ← place]

/-- All trees on the stacks of the machine are well built. -/
theorem built_of_reaches {text : List Glyph} {r : Reading} (h : Reaches text r) :
    r.stack.Built text := by
  induction h with
  | start => exact fun f hf => nomatch hf
  | push reached split place read pushes ih =>
    have hv := viable_of_reaches reached
    exact hv.built_pushes ih (spans_of_pushes hv split place read pushes) pushes

/-- A tree that the machine accepts is a well-built program. -/
theorem built_of_recognises {text : List Glyph} {root : Tree} (h : Recognises text root) :
    root.Built text ∧ ∃ layout children, root = .node .program layout children := by
  obtain @⟨r, before, rest, token, stack, _, reached, split, place, read, completes, accepts⟩ := h
  have hv := viable_of_reaches reached
  have hbuilt := hv.built_completes (built_of_reaches reached) completes
  cases (hv.completes completes).outcome_of_step accepts with
  | @accept upper lower layout children _ _ alone above under =>
    refine ⟨?_, layout, _, rfl⟩
    subst alone
    have hnode := hbuilt ⟨Automaton.final, .node .program layout children⟩ (by simp)
    cases hnode with
    | node makes below =>
      have hcomments : ∀ s : Stack, (∀ f ∈ s, f.tree.isComment = true) →
          Tree.structural (s.map (·.tree)).reverse = [] := by
        intro s hs
        rw [structural_of_taken, Stack.plain_of_comments hs]
        rfl
      refine .node ?_ fun c hc => ?_
      · rw [Tree.structural_append, Tree.structural_append, hcomments lower under,
          hcomments upper above, List.nil_append, List.append_nil]
        exact makes
      · rcases List.mem_append.1 hc with hc | hc
        · rcases List.mem_append.1 hc with hc | hc
          · obtain ⟨f, hf, rfl⟩ := List.mem_map.1 (List.mem_reverse.1 hc)
            exact hbuilt f (by simp [hf])
          · exact below c hc
        · obtain ⟨f, hf, rfl⟩ := List.mem_map.1 (List.mem_reverse.1 hc)
          exact hbuilt f (by simp [hf])

end Parser
end Numscript
