import Numscript.Proofs.Parser.Grouping
import Numscript.Proofs.Parser.Found

/-!
# Forests

The trees on a stack from the ground up, without their comments. What the machine does on a stack is told by
its forest: the symbols of the trees are a walk to the state on top.
-/
namespace Numscript.Parser

open Automaton (Reduction leads? goto? reduction? start)
open Grammar (productions)

/-- The trees on a stack from the ground up, without comments. -/
def Stack.forest (s : Stack) : List Tree := Tree.siftedAll (s.map (·.tree)).reverse

theorem Stack.forest_eq (s : Stack) : s.forest = (s.plain.map (·.tree.sifted)).reverse := by
  rw [Stack.forest, Tree.siftedAll_eq, List.filter_reverse, List.map_reverse, List.filter_map,
    List.map_map]
  rfl

theorem Stack.forest_cons (f : Frame) (s : Stack) :
    Stack.forest (f :: s) = if f.tree.isComment then s.forest else s.forest ++ [f.tree.sifted] := by
  rw [Stack.forest, List.map_cons, List.reverse_cons, Tree.siftedAll_append]
  cases hc : f.tree.isComment <;> simp [Tree.siftedAll, hc, Stack.forest]

theorem Stack.forest_comment {s : Stack} {q : Nat} {token : Token}
    (comment : token.kind.isComment = true) : Stack.forest (⟨q, .leaf token⟩ :: s) = s.forest := by
  rw [Stack.forest_cons]
  exact if_pos comment

theorem Stack.forest_token {s : Stack} {q : Nat} {token : Token}
    (plain : token.kind.isComment = false) :
    Stack.forest (⟨q, .leaf token⟩ :: s) = s.forest ++ [.leaf token] := by
  rw [Stack.forest_cons]
  exact if_neg (by simp [Tree.isComment, plain])

theorem Stack.symbols_forest (s : Stack) :
    s.forest.map Tree.symbol = Tree.structural (s.map (·.tree)).reverse :=
  Tree.symbols_siftedAll _

theorem Viable.walk_forest {s : Stack} (h : Viable s) :
    Automaton.walk start (s.forest.map Tree.symbol) = some s.state := by
  have hself : Viable (s ++ []) := by rwa [List.append_nil]
  have hwalk := hself.walk
  rwa [List.append_nil, ← Stack.symbols_forest] at hwalk

/-- A reduction puts a phrase in the place of the last trees of a forest, which are its children. -/
structure Completed (r : Reduction) (forest kept : List Tree) (below children : List Tree) : Prop where
  split : forest = below ++ children
  count : children.length = r.arity
  spelt : children.map Tree.symbol ∈ (productions r.phrase).map Reduction.children
  leads : ∃ q, Automaton.walk start (below.map Tree.symbol) = some q ∧ (goto? q r.phrase).isSome = true
  whole : kept = below ++ [.node r.phrase r.layout children]

theorem Reduces.exists_completed {s kept : Stack} {t : Terminal} {r : Reduction} (h : Reduces r s kept)
    (hv : Viable s) (asks : reduction? s.state t = some r) :
    ∃ below children, Completed r s.forest kept.forest below children := by
  obtain ⟨taken, rest, p, handle⟩ := h.exists_handle hv asks
  obtain ⟨next, children, hkept, hchildren⟩ := handle.top
  have hbelow : kept.forest = (rest.map (·.tree.sifted)).reverse ++
      [.node r.phrase r.layout (taken.map (·.tree.sifted)).reverse] := by
    rw [Stack.forest_eq, hkept, ← hchildren, List.map_cons, List.reverse_cons]
    rfl
  have hsymbols : (taken.map (·.tree.sifted)).reverse.map Tree.symbol = Reduction.children p := by
    rw [← handle.symbols, List.map_reverse, List.map_map]
    simp [Function.comp_def]
  refine ⟨_, _, ?_, ?_, List.mem_map.2 ⟨p, handle.spelt, hsymbols.symm⟩, ?_, hbelow⟩
  · rw [Stack.forest_eq, handle.split, List.map_append, List.reverse_append]
  · obtain ⟨frames, rest', _, _, hsplit, hcount, hkept', _⟩ := h.exists_plain
    obtain rfl := (List.cons.inj (hkept.symm.trans hkept')).2
    obtain rfl := List.append_cancel_right (handle.split.symm.trans hsplit)
    simpa using hcount
  · have hwalk := (hv.of_reduces h).walk_forest
    rw [hbelow, List.map_append, Automaton.walk_append] at hwalk
    obtain ⟨q, hq, hnext⟩ := Option.bind_eq_some_iff.1 hwalk
    refine ⟨q, hq, ?_⟩
    rw [List.map_singleton, Automaton.walk] at hnext
    obtain ⟨n, hn, _⟩ := Option.bind_eq_some_iff.1 hnext
    exact Option.isSome_of_eq_some hn

/-- A phrase among comments is the only tree of its forest. -/
theorem Stack.forest_alone {upper lower : Stack} {f : Frame} (plain : f.tree.isComment = false)
    (above : ∀ f ∈ upper, f.tree.isComment = true) (under : ∀ f ∈ lower, f.tree.isComment = true) :
    Stack.forest (upper ++ f :: lower) = [f.tree.sifted] := by
  rw [Stack.forest_eq, Stack.plain_alone above under plain]
  rfl

theorem walk_program : Automaton.walk start [.nonterminal .program] = some Automaton.final := by
  decide +kernel

theorem Viable.forest_of_final {s : Stack} (hv : Viable s) (final : s.state = Automaton.final) :
    ∃ layout trees, s.forest = [.node .program layout trees] := by
  obtain ⟨upper, lower, layout, children, rfl, above, under⟩ := hv.program_of_final final
  exact ⟨layout, Tree.siftedAll children, Stack.forest_alone rfl above under⟩

/-- A program that is accepted is the only tree of the forest. -/
theorem Settles.sifted_of_program {token : Token} {s : Stack} {root : Tree} {layout : Layout}
    {trees : List Tree} (h : Settles token s (.accepted root)) (hv : Viable s)
    (isProgram : s.forest = [.node .program layout trees]) : root.sifted = .node .program layout trees := by
  have hwalk := hv.walk_forest
  rw [isProgram] at hwalk
  have hstate : s.state = Automaton.final := Option.some.inj (hwalk.symm.trans walk_program)
  generalize he : Ending.accepted root = e at h
  cases h with
  | pass | shift => cases he
  | reduce _ asks =>
    rw [hstate, Automaton.reduction?_final _ (Terminal.mem_all _)] at asks
    cases asks
  | @accept s upper lower layout' children _ _ alone above under =>
    obtain rfl := Ending.accepted.inj he
    rw [alone, Stack.forest_alone rfl above under] at isProgram
    rw [sifted_accepted _ _ above under]
    exact (List.cons.inj isProgram).1

/-- A stack with nothing but the program on it is accepted at the end of the text. -/
theorem Viable.accepts_of_program {token : Token} {s : Stack} (hv : Viable s) {layout : Layout}
    {trees : List Tree} (isProgram : s.forest = [.node .program layout trees])
    (kind : token.kind = .endOfText) : ∃ root, Settles token s (.accepted root) ∧
      root.sifted = .node .program layout trees := by
  have hwalk := hv.walk_forest
  rw [isProgram] at hwalk
  have hstate : s.state = Automaton.final := Option.some.inj (hwalk.symm.trans walk_program)
  obtain ⟨upper, lower, layout', children, alone, above, under⟩ := hv.program_of_final hstate
  have haccepts : Settles token s _ := .accept hstate kind alone above under
  exact ⟨_, haccepts, haccepts.sifted_of_program hv isProgram⟩

end Numscript.Parser
