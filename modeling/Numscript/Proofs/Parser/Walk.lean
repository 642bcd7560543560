import Numscript.Proofs.Automaton.Walk
import Numscript.Proofs.Parser.Branch

/-!
# Walks on a stack

The symbols on a viable stack are a walk between the states that hold them, and a reduction takes the walk
through the children of a production off the stack.
-/
namespace Numscript

open Automaton (Reduction leads? goto? reduction?)
open Grammar (productions)

namespace Parser

/-- The upper part of a viable stack is a walk from the state below it. -/
theorem Viable.walk {upper lower : Stack} (h : Viable (upper ++ lower)) :
    Automaton.walk lower.state (Tree.structural (upper.map (·.tree)).reverse) =
      some (Stack.state (upper ++ lower)) := by
  induction upper with
  | nil => rfl
  | cons f upper ih =>
    have hbelow := ih h.tail
    rw [List.map_cons, List.reverse_cons, Tree.structural_append]
    rw [List.cons_append] at h ⊢
    cases h with
    | @comment _ tree _ hc =>
      change Automaton.walk lower.state (_ ++ Tree.structural [tree]) = _
      rw [Tree.structural_comment hc]
      exact (congrArg (Automaton.walk lower.state) (List.append_nil _)).trans hbelow
    | @read _ tree next _ hr leads =>
      change Automaton.walk lower.state (_ ++ Tree.structural [tree]) = _
      rw [Tree.structural_cons hr]
      exact (Automaton.walk_snoc hbelow).trans leads

/-- A reduction completes a production whose children lead to the state on top. -/
theorem Viable.walk_of_reduces {s kept : Stack} {t : Terminal} {r : Reduction} (h : Viable s)
    (asks : reduction? s.state t = some r) (reduces : Reduces r s kept) :
    ∃ q, ∃ p ∈ productions r.phrase, Automaton.walk q (Reduction.children p) = some s.state ∧
      goto? q r.phrase = some kept.state := by
  obtain @⟨children, rest, next, pop, leads, fill⟩ := reduces
  obtain ⟨taken, hbare, hchildren, _⟩ := Stack.pop_eq_some pop
  rw [List.append_nil] at hchildren
  have hitems := Automaton.items_mem_productions asks fill
  have hviable : Viable (taken ++ rest) := hbare ▸ h.dropWhile
  refine ⟨rest.state, _, hitems.1, ?_, ?_⟩
  · rw [hitems.2, hchildren, hviable.walk, ← hbare]
    exact congrArg some h.state_dropWhile
  · rw [leads]
    cases s.comments <;> rfl

end Parser
end Numscript
