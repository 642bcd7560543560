import Numscript.Proofs.Parser.Concatenated
import Numscript.Proofs.Tree.Structural

/-!
# The ends of phrases

A comment before or behind a phrase is put beside it, not into it. So the children of every node but the root
begin and end with nodes that are no comments.
-/
namespace Numscript

/-- Nodes of which the first and the last one are no comments. -/
structure Node.PlainEnds (nodes : List Node) : Prop where
  inhabited : nodes ≠ []
  first : ∀ c ∈ nodes.head?, c.label.extra = false
  last : ∀ c ∈ nodes.getLast?, c.label.extra = false

theorem Node.PlainEnds.singleton {n : Node} (h : n.label.extra = false) : PlainEnds [n] :=
  ⟨List.cons_ne_nil n [], fun _ hc => Option.some.inj hc ▸ h, fun _ hc => Option.some.inj hc ▸ h⟩

theorem Node.PlainEnds.eq_singleton {nodes : List Node} (h : PlainEnds nodes) {n : Node}
    (only : nodes.filter (fun c => !c.label.extra) = [n]) : nodes = [n] := by
  obtain ⟨c, rest, rfl⟩ := List.exists_cons_of_ne_nil h.inhabited
  have hfirst := h.first c rfl
  rw [List.filter_cons_of_pos (by simp [hfirst])] at only
  obtain ⟨rfl, hrest⟩ := List.cons.inj only
  cases hlast : rest.getLast? with
  | none => rw [List.getLast?_eq_none_iff.1 hlast]
  | some d =>
    have hplain := h.last d (by rw [List.getLast?_cons, hlast]; rfl)
    have hmem : d ∈ rest.filter fun c => !c.label.extra :=
      List.mem_filter.2 ⟨List.mem_of_getLast? hlast, by simp [hplain]⟩
    rw [hrest] at hmem
    cases hmem

namespace Tree

open Grammar (unaliased)
open Node (PlainEnds)

/-- What children show ends with what the last of them shows. -/
theorem exists_nodesFrom_getLast? (layout : Layout) {children : List Tree} {c : Tree}
    (last : c ∈ children.getLast?) (place : Nat) :
    ∃ init field name, nodesFrom layout place children = init ++ c.nodes field name := by
  induction children generalizing place with
  | nil => cases last
  | cons d children ih =>
    rw [nodesFrom]
    cases hrest : children.getLast? with
    | none =>
      obtain rfl := List.getLast?_eq_none_iff.1 hrest
      obtain rfl : d = c := Option.some.inj last
      split
      · exact ⟨[], none, none, by rw [nodesFrom, List.append_nil, List.nil_append]⟩
      · exact ⟨[], _, _, by rw [nodesFrom, List.append_nil, List.nil_append]⟩
    | some e =>
      have hlast : c ∈ children.getLast? := by
        rw [List.getLast?_cons, hrest] at last
        rw [hrest]
        exact last
      split
      · obtain ⟨init, field, name, hnodes⟩ := ih hlast place
        exact ⟨_, field, name, by rw [hnodes, List.append_assoc]⟩
      · obtain ⟨init, field, name, hnodes⟩ := ih hlast (place + 1)
        exact ⟨_, field, name, by rw [hnodes, List.append_assoc]⟩

/-- The ends of what children show are plain if the first and the last child are no comments. -/
theorem plainEnds_nodesFrom {layout : Layout} {children : List Tree} (inhabited : children ≠ [])
    (first : ∀ c ∈ children.head?, c.isComment = false)
    (last : ∀ c ∈ children.getLast?, c.isComment = false)
    (below : ∀ c ∈ children, c.isComment = false → ∀ field name, PlainEnds (c.nodes field name))
    (place : Nat) : PlainEnds (nodesFrom layout place children) := by
  obtain ⟨c, rest, rfl⟩ := List.exists_cons_of_ne_nil inhabited
  obtain ⟨d, hd⟩ : ∃ d, d ∈ (c :: rest).getLast? := ⟨_, List.getLast?_eq_some_getLast inhabited⟩
  obtain ⟨init, field, name, hnodes⟩ := exists_nodesFrom_getLast? layout hd place
  have hc := below c List.mem_cons_self (first c rfl) (layout.field? place) (layout.alias? place)
  have hd := below d (List.mem_of_getLast? hd) (last d hd) field name
  refine ⟨?_, fun n hn => ?_, fun n hn => ?_⟩
  · rw [hnodes]
    exact List.append_ne_nil_of_right_ne_nil _ hd.inhabited
  · rw [nodesFrom, if_neg (by simp [first c rfl]), List.head?_append_of_ne_nil _ hc.inhabited] at hn
    exact hc.first n hn
  · rw [hnodes, List.getLast?_append_of_ne_nil _ hd.inhabited] at hn
    exact hd.last n hn

/-- The ends of what a phrase shows are plain, for itself and below it. -/
theorem Found.plainEnds {t : Tree} (h : t.Found) :
    (t.isComment = false → ∀ field name, PlainEnds (t.nodes field name)) ∧
      ∀ phrase layout children, t = .node phrase layout children →
        PlainEnds (nodesFrom layout 0 children) := by
  have htrimmed := h.trimmed
  induction htrimmed with
  | leaf token => exact ⟨fun plain _ _ => .singleton plain, nofun⟩
  | @node phrase layout children first last _ ih =>
    obtain ⟨inhabited, hbelow⟩ := h.below
    have hinner : PlainEnds (nodesFrom layout 0 children) :=
      plainEnds_nodesFrom inhabited first last (fun c hc => (ih c hc (hbelow c hc)).1) 0
    refine ⟨fun _ field name => ?_, fun _ _ _ hnode => ?_⟩
    · rw [nodes]
      split
      · exact hinner
      · exact .singleton rfl
    · obtain ⟨rfl, rfl, rfl⟩ := Tree.node.inj hnode
      exact hinner

theorem Found.within {s t : Tree} (h : t.Found) (within : Within s t) : s.Found := by
  induction within with
  | refl => exact h
  | child mem _ ih => exact ih (h.below.2 _ mem)

/-- The children of a node that shows a phrase have plain ends, and a node that shows a token has none. -/
theorem Source.plainEnds {s : Tree} {n : Node} (h : s.Source n) (found : s.Found) :
    (∃ t, unaliased n.symbol = .terminal t) ∧ n.children = [] ∨
      (∃ phrase, unaliased n.symbol = .nonterminal phrase) ∧ PlainEnds n.children := by
  cases h with
  | token _ shows => exact .inl ⟨⟨_, shows⟩, rfl⟩
  | phrase _ shows => exact .inr ⟨⟨_, shows⟩, found.plainEnds.2 _ _ _ rfl⟩

end Tree

/-- Every node below the root of a valid program shows a phrase of the accepting run, or a token. -/
theorem exists_source_of_valid (bytes : List UInt8) {root : Node}
    (h : Program.ofBytes bytes = .valid root) :
    ∀ n ∈ root.inside, ∃ s : Tree, s.Source n ∧ s.Found ∧ s.Built (Glyph.ofBytes bytes) := by
  obtain ⟨_, tree, hparse, haccepts, rfl, _⟩ := exists_tokens_of_valid bytes h
  obtain ⟨children, rfl, hfound⟩ := haccepts.recognises.found
  obtain ⟨hbuilt, _⟩ := Parser.built_of_recognises haccepts.recognises
  intro n hn
  obtain _ | ⟨makes, below⟩ := hbuilt
  change n ∈ Node.insideAll (Tree.nodesFrom .plain 0 children) at hn
  rw [Node.insideAll_eq] at hn
  obtain ⟨m, hm, hn⟩ := List.mem_flatMap.1 hn
  obtain ⟨c, hc, field, name, shows, _, hm⟩ := Tree.exists_child_of_mem_nodesFrom makes.children hm
  have hmem : n ∈ Node.insideAll (c.nodes field name) := by
    rw [Node.insideAll_eq]
    exact List.mem_flatMap.2 ⟨m, hm, hn⟩
  obtain ⟨s, hs, hsource⟩ := (below c hc).exists_source.1 field name shows n hmem
  exact ⟨s, hsource, (hfound c hc).1.within hs, hs.built (below c hc)⟩

/-- A node below the root of a valid program is a token without children, or its children have plain ends. -/
theorem plainEnds_of_valid (bytes : List UInt8) {root : Node}
    (h : Program.ofBytes bytes = .valid root) : ∀ n ∈ root.inside,
      (∃ t, Grammar.unaliased n.symbol = .terminal t) ∧ n.children = [] ∨
        (∃ phrase, Grammar.unaliased n.symbol = .nonterminal phrase) ∧ Node.PlainEnds n.children := by
  intro n hn
  obtain ⟨s, hsource, hfound, _⟩ := exists_source_of_valid bytes h n hn
  exact hsource.plainEnds hfound

theorem root_of_valid (bytes : List UInt8) {root : Node} (h : Program.ofBytes bytes = .valid root) :
    root.symbol = .nonterminal .program ∧ root.label.extra = false := by
  obtain ⟨_, tree, _, haccepts, rfl, _⟩ := exists_tokens_of_valid bytes h
  obtain ⟨_, _, _, rfl⟩ := Parser.built_of_recognises haccepts.recognises
  exact ⟨rfl, rfl⟩

end Numscript
