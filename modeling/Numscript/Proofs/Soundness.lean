import Numscript.Proofs.Parser.Safety
import Numscript.Proofs.Parser.Sweep
import Numscript.Proofs.Tree.Shown

/-!
# Soundness of the tables

What is parsed is in the language: the visible tree of a valid text, its comments left out, derives
from the grammar as a program, and every reduction on the way takes trees off the stack that spell a
production of its phrase.
-/
namespace Numscript

open Grammar (Derives productions rule sameItem)
open Automaton (Asks Reduction)
open Numscript.Parser (Stack Configuration)

/-- The trees that a reduction takes off a stack spell a production, and what they show follows the
rule. -/
structure Parser.TakesProduction (stack : Stack) (r : Reduction) (taken rest : Stack) : Prop where
  split : stack.bare = taken ++ rest
  count : taken.plain.length = r.arity
  production : r.layout.items (Tree.structural (taken.map (·.tree)).reverse) ∈
    productions r.phrase
  follows : (rule r.phrase).Fits sameItem
    (Node.items (Tree.nodesFrom r.layout 0 (taken.map (·.tree)).reverse))

theorem Parser.takesProduction_of_configuration {text : List Glyph} {stack : Stack} {token : Token}
    (h : Configuration text stack token) {r : Reduction} (hr : Asks stack.state token.kind r) :
    ∃ taken rest, Parser.TakesProduction stack r taken rest := by
  obtain @⟨reading, before, rest, _, _, reached, split, place, read, completes⟩ := h
  have hv := viable_of_reaches reached
  have hbuilt := hv.built_completes (built_of_reaches reached) completes
  have hask := Automaton.reduction?_of_asks hr
  obtain ⟨_, _, hreduces⟩ := (hv.completes completes).reduce hask
  obtain ⟨pop, _, fill⟩ := hreduces
  obtain ⟨taken, hbare, hchildren, hcount⟩ := Stack.pop_eq_some pop
  rw [List.append_nil] at hchildren
  subst hchildren
  have makes := fill.makesUp hask
  refine ⟨taken, _, hbare, hcount, makes.items, Tree.follows_of_makesUp makes fun c hc => ?_⟩
  obtain ⟨f, hf, rfl⟩ := List.mem_map.1 (List.mem_reverse.1 hc)
  have hmem : f ∈ stack.bare := by
    rw [hbare]
    exact List.mem_append_left _ hf
  exact (hbuilt f ((List.dropWhile_sublist _).subset hmem)).follows

/--
The tree of a valid text, without its comments, derives from the grammar as a program, and whatever
run of the machine one follows over the text, each reduction takes off the stack what spells one of
its productions.
-/
theorem derives_of_valid (text : List Glyph) {root : Node}
    (h : Program.ofGlyphs text = .valid root) :
    Derives (root.form text).withoutComments ∧
      (root.form text).withoutComments.symbol = .nonterminal .program ∧
      ∀ stack token, Configuration text stack token → ∀ r, Asks stack.state token.kind r →
        ∃ taken rest, Parser.TakesProduction stack r taken rest := by
  unfold Program.ofGlyphs at h
  cases hparse : Parser.parse text with
  | invalid furthest =>
    rw [hparse] at h
    cases h
  | valid tree =>
    rw [hparse] at h
    obtain rfl := Program.valid.inj h
    obtain ⟨hbuilt, layout, children, rfl⟩ :=
      Parser.built_of_recognises (Parser.recognises_of_parse hparse)
    refine ⟨(hbuilt.derives_program _).withoutComments, ?_, ?_⟩
    · rw [Grammar.symbol_withoutComments]
      rfl
    · exact fun stack token hc r hr => Parser.takesProduction_of_configuration hc hr

/-- The call of a function, with a comment in it. -/
theorem derives_call : ∃ root : Node,
    let text : List Glyph := "f(/**/ $a, 1)".toList.map fun c => .char c.toNat
    Program.ofGlyphs text = .valid root ∧ Derives (root.form text).withoutComments := by
  have hvalid : (Program.ofGlyphs ("f(/**/ $a, 1)".toList.map fun c => .char c.toNat)).root?.isSome =
      true := by decide +kernel
  cases hprogram : Program.ofGlyphs ("f(/**/ $a, 1)".toList.map fun c => .char c.toNat) with
  | invalid furthest =>
    rw [hprogram] at hvalid
    cases hvalid
  | valid root => exact ⟨root, hprogram, (derives_of_valid _ hprogram).1⟩

end Numscript
