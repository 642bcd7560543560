import Numscript.Proofs.Parser.Grouping
import Numscript.Proofs.Tree.Draw

/-!
# The trees that the machine finds

A property that tokens have, and that a reduction keeps, is one of every tree on a stack of the machine. So
every phrase that is found is spelt by a production, each child in the role that the production gives to it;
and without its comments it is proper.
-/
namespace Numscript

open Automaton (Reduction leads? goto? reduction? rolesOf)
open Grammar (Item productions)

/-- The layout of a reduction gives the roles of the production that it completes. -/
theorem Automaton.rolesOf_of_reduction {q : Nat} {t : Terminal} {r : Reduction} {p : List Item}
    (asks : reduction? q t = some r) (hp : p ∈ productions r.phrase) (length : p.length = r.arity)
    (roles : r.layout.items (Reduction.children p) = p) : rolesOf p = r.layout := by
  have hall : ∀ q ∈ List.range stateCount, ∀ s ∈ state? q, ∀ e ∈ s.reductions,
      ∀ p ∈ productions e.1.phrase, p.length = e.1.arity →
        e.1.layout.items (Reduction.children p) = p → rolesOf p = e.1.layout := by
    decide +kernel
  obtain ⟨s, hs, hr⟩ := Option.bind_eq_some_iff.1 asks
  obtain ⟨before, hmem, _⟩ := State.mem_reductions hr
  exact hall q (List.mem_range.2 (lt_stateCount_of_state? hs)) s hs _ hmem p hp length roles

/-- A tree whose phrases are productions of the grammar, each with the roles of its production. -/
inductive Tree.Spelt : Tree → Prop
  | leaf (token : Token) : Spelt (.leaf token)
  | node {n : Nonterminal} {p : List Item} {children : List Tree} (spelt : p ∈ productions n)
      (symbols : structural children = Reduction.children p) (below : ∀ c ∈ children, Spelt c) :
      Spelt (.node n (rolesOf p) children)

namespace Parser

section
variable {P : Tree → Prop} (leaf : ∀ token, P (.leaf token))
  (node : ∀ {q : Nat} {t : Terminal} {r : Reduction} {children : List Tree},
    reduction? q t = some r → Fill r r.arity children → (∀ c ∈ children, P c) →
      P (.node r.phrase r.layout children))
include leaf node

omit leaf in
theorem Reduces.forall_trees {s kept : Stack} {t : Terminal} {r : Reduction}
    (asks : reduction? s.state t = some r) (h : Reduces r s kept) (hs : ∀ f ∈ s, P f.tree) :
    ∀ f ∈ kept, P f.tree := by
  refine h.forall_frames hs (fun f hf _ _ => hs f hf) fun _ _ fill below => node asks fill fun c hc => ?_
  obtain ⟨f, hf, rfl⟩ := below c hc
  exact hs f ((List.dropWhile_sublist _).subset hf)

/-- What the machine makes of a stack keeps a property that reductions keep. -/
theorem Settles.forall_trees {token : Token} {s : Stack} {e : Ending} (h : Settles token s e)
    (hs : ∀ f ∈ s, P f.tree) : (∀ t, e = .pushed t → ∀ f ∈ t, P f.tree) ∧
      ∀ root, e = .accepted root → ∃ layout before children behind,
        root = .node .program layout (before ++ children ++ behind) ∧
        (∀ c ∈ before ++ behind, c.isComment = true) ∧ P (.node .program layout children) := by
  induction h with
  | pass | shift =>
    refine ⟨?_, nofun⟩
    rintro _ ⟨⟩
    exact List.forall_mem_cons.2 ⟨leaf token, hs⟩
  | reduce _ asks reduces _ ih => exact ih (reduces.forall_trees node asks hs)
  | @accept s upper lower layout children _ _ alone above under =>
    refine ⟨nofun, ?_⟩
    rintro _ ⟨⟩
    refine ⟨layout, _, children, _, rfl, ?_, ?_⟩
    · rw [List.forall_mem_append]
      simpa using And.intro under above
    · exact hs ⟨Automaton.final, .node .program layout children⟩ (by simp [alone])

theorem forall_trees_of_reaches {text : List Glyph} {r : Reading} (h : Reaches text r) :
    ∀ f ∈ r.stack, P f.tree := by
  induction h with
  | start => nofun
  | push reached _ _ _ pushes ih =>
    have hsettles := (Ends.pushed pushes).settles (viable_of_reaches reached)
    exact (hsettles.forall_trees leaf node ih).1 _ rfl

/-- A property that tokens have and reductions keep is one of the program that is accepted, as it was before
the comments at its ends were put into it. -/
theorem Recognises.exists_program {text : List Glyph} {root : Tree} (h : Recognises text root) :
    ∃ layout before children behind, root = .node .program layout (before ++ children ++ behind) ∧
      (∀ c ∈ before ++ behind, c.isComment = true) ∧ P (.node .program layout children) := by
  obtain ⟨reached, _, _, _, completes, accepts⟩ := h
  have hsettles := (Ends.accepted completes accepts).settles (viable_of_reaches reached)
  exact (hsettles.forall_trees leaf node (forall_trees_of_reaches leaf node reached)).2 _ rfl

end

/-- What a reduction completes is spelt by a production. -/
theorem Fill.spelt {q : Nat} {t : Terminal} {r : Reduction} {children : List Tree}
    (asks : reduction? q t = some r) (fill : Fill r r.arity children)
    (below : ∀ c ∈ children, c.Spelt) : (Tree.node r.phrase r.layout children).Spelt := by
  obtain ⟨hp, hchildren⟩ := Automaton.items_mem_productions asks fill
  have hlength : (r.layout.items (Tree.structural children)).length = r.arity := by
    have hsame := congrArg List.length hchildren
    rw [Reduction.children, List.length_map] at hsame
    rw [hsame, fill.length]
  have hroles := Automaton.rolesOf_of_reduction asks hp hlength (by rw [hchildren])
  rw [← hroles]
  exact .node hp hchildren.symm below

end Parser

namespace Tree

theorem symbols_siftedAll (trees : List Tree) : (siftedAll trees).map symbol = structural trees := by
  rw [siftedAll_eq, List.map_map, structural]
  exact List.map_congr_left fun t _ => symbol_sifted t

/-- No phrase has a program among its children. -/
theorem ne_program_of_spelt {n : Nonterminal} {p : List Item} {children : List Tree} {c : Tree}
    (spelt : p ∈ productions n) (symbols : structural children = Reduction.children p)
    (hc : c ∈ children) (plain : c.isComment = false) : c.symbol ≠ .nonterminal .program := by
  intro hprogram
  have hsymbol := mem_structural hc plain
  rw [symbols, Reduction.children, hprogram] at hsymbol
  obtain ⟨i, hi, hsymbol⟩ := List.mem_map.1 hsymbol
  exact (productions_solid n (Nonterminal.mem_all n) p spelt).2 i hi hsymbol

/-- A tree that is spelt by the grammar, with operands that need no parentheses, is proper without its
comments. -/
theorem Spelt.proper {t : Tree} (h : t.Spelt) (grouped : t.sifted.Grouped)
    (plain : t.isComment = false) (inner : t.symbol ≠ .nonterminal .program) : t.sifted.Proper := by
  induction h with
  | leaf => exact .leaf plain
  | @node n p children spelt symbols below ih =>
    rw [sifted] at grouped ⊢
    refine .node spelt ?_ ?_ ?_ fun c hc => ?_
    · rintro rfl
      obtain rfl := Form.eq_program_of_nil spelt
      exact inner rfl
    · rw [symbols_siftedAll, symbols]
    · rintro rfl
      exact grouped _ _ .refl
    · have hgrouped := grouped.below c hc
      rw [siftedAll_eq] at hc
      obtain ⟨d, hd, rfl⟩ := List.mem_map.1 hc
      obtain ⟨hmem, hd⟩ := List.mem_filter.1 hd
      have hplain : d.isComment = false := by simpa using hd
      exact ih d hmem hgrouped hplain (ne_program_of_spelt spelt symbols hmem hplain)

end Tree

/-- What stands below a program that the machine accepts is proper without its comments. -/
theorem Parser.Recognises.proper {text : List Glyph} {root : Tree} (h : Recognises text root) :
    ∃ layout children, root = .node .program layout children ∧
      ∀ c ∈ Tree.siftedAll children, c.Proper := by
  have hgrouped := grouped_of_recognises h
  obtain ⟨layout, before, children, behind, rfl, comments, hspelt⟩ :=
    h.exists_program Tree.Spelt.leaf Fill.spelt
  refine ⟨layout, _, rfl, fun c hc => ?_⟩
  rw [Tree.sifted] at hgrouped
  have hc' := hgrouped.below c hc
  rw [List.forall_mem_append] at comments
  rw [Tree.siftedAll_append, Tree.siftedAll_append, Tree.siftedAll_of_comments comments.1,
    Tree.siftedAll_of_comments comments.2, List.nil_append, List.append_nil, Tree.siftedAll_eq] at hc
  obtain ⟨d, hd, rfl⟩ := List.mem_map.1 hc
  obtain ⟨hmem, hd⟩ := List.mem_filter.1 hd
  have hplain : d.isComment = false := by simpa using hd
  generalize ht : Tree.node .program layout children = t at hspelt
  cases hspelt with
  | leaf => cases ht
  | @node n p _ spelt symbols below =>
    obtain ⟨rfl, rfl, rfl⟩ := Tree.node.inj ht
    exact (below d hmem).proper hc' hplain (Tree.ne_program_of_spelt spelt symbols hmem hplain)

end Numscript
