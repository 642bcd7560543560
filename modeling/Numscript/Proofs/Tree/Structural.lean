import Numscript.Proofs.Conformance

/-!
# Structural children

The children of a node that are no comments. Where no child of a phrase is a repetition, each of them shows as
one node, in the role that the production gives to it.
-/
namespace Numscript

open Automaton (Reduction)
open Grammar (Item productions unaliased)

namespace Node

/-- The children that are no comments. -/
def structural (n : Node) : List Node := n.children.filter fun c => !c.label.extra

/-- The tokens below a node that are no comments. -/
def tokens (n : Node) : List Label := n.leaves.filter fun l => !l.extra

mutual

theorem inside_trans {c d : Node} : (n : Node) → d ∈ n.inside → c ∈ d.inside → c ∈ n.inside
  | .mk _ children, hd, hc => insideAll_trans children hd hc

theorem insideAll_trans {c d : Node} :
    (nodes : List Node) → d ∈ insideAll nodes → c ∈ d.inside → c ∈ insideAll nodes
  | [], hd, _ => nomatch hd
  | n :: rest, hd, hc => by
    rw [insideAll, List.mem_cons, List.mem_append] at hd ⊢
    rcases hd with rfl | hd | hd
    · exact .inr (.inl hc)
    · exact .inr (.inl (inside_trans n hd hc))
    · exact .inr (.inr (insideAll_trans rest hd hc))

end

end Node

namespace Tree

/-- A tree that is no repetition shows as one node. -/
theorem exists_node (t : Tree) (field : Option Field) (name : Option Alias)
    (lasting : ∀ n, t.symbol = .nonterminal n → n.isRepetition = false) :
    ∃ n, t.nodes field name = [n] ∧ n.field = field ∧ n.symbol = t.shownSymbol name ∧
      n.label.extra = t.isComment ∧ (unaliased (t.shownSymbol name) = t.symbol → t.Source n) := by
  cases t with
  | leaf token => exact ⟨_, rfl, rfl, rfl, rfl, .token field⟩
  | node phrase layout children =>
    have hlasting := lasting phrase rfl
    refine ⟨_, ?_, rfl, rfl, rfl, fun shows => .phrase field shows hlasting⟩
    rw [nodes, if_neg (by simp [hlasting])]
    rfl

/-- Where no child is a repetition, each shows as one node, in the role that the layout gives to it. -/
theorem sources_nodesFrom (layout : Layout) (children : List Tree) (place : Nat)
    (fitting : Reduction.children (layout.itemsFrom place (structural children)) = structural children)
    (lasting : ∀ n, .nonterminal n ∈ structural children → n.isRepetition = false) :
    List.Forall₂ Source (children.filter fun t => !t.isComment)
        ((nodesFrom layout place children).filter fun n => !n.label.extra) ∧
      ((nodesFrom layout place children).filter fun n => !n.label.extra).map
          (fun n => (⟨n.symbol, n.field⟩ : Item)) =
        layout.itemsFrom place (structural children) := by
  induction children generalizing place with
  | nil => exact ⟨.nil, rfl⟩
  | cons c children ih =>
    rw [nodesFrom]
    cases hc : c.isComment with
    | true =>
      rw [structural_comment hc] at fitting lasting ⊢
      obtain ⟨token, rfl⟩ : ∃ token, c = .leaf token := by
        cases c with
        | leaf token => exact ⟨token, rfl⟩
        | node => cases hc
      have hextra : token.kind.isComment = true := hc
      simpa [nodes, hextra, hc, Node.label] using ih place fitting lasting
    | false =>
      rw [structural_cons hc, Layout.itemsFrom] at fitting ⊢
      rw [structural_cons hc] at lasting
      obtain ⟨shows, hrest⟩ := List.cons.inj fitting
      obtain ⟨n, hnodes, hfield, hsymbol, hextra, hsource⟩ :=
        exists_node c (layout.field? place) (layout.alias? place) fun m hm =>
          lasting m (hm ▸ List.mem_cons_self)
      obtain ⟨hsources, hitems⟩ := ih _ hrest fun m hm => lasting m (List.mem_cons_of_mem _ hm)
      rw [if_neg (by simp), hnodes, List.singleton_append, List.filter_cons, List.filter_cons,
        if_pos (by simp [hc]), if_pos (by simp [hextra, hc]), List.map_cons, hitems, hfield, hsymbol]
      exact ⟨.cons (hsource shows) hsources, rfl⟩

theorem Source.tokens_of_extra {t : Tree} {n : Node} (h : t.Source n) (extra : n.label.extra = true) :
    n.tokens = [] := by
  cases h with
  | @token token symbol field shows =>
    have hextra : token.kind.isComment = true := extra
    rw [Node.tokens, Node.leaves]
    split <;> simp [hextra]
  | phrase => cases extra

theorem isRepetition_of_item {i : Item} {m : Nonterminal} (h : i.isRepetition = false)
    (shows : unaliased i.symbol = .nonterminal m) : m.isRepetition = false := by
  obtain ⟨symbol, field⟩ := i
  cases symbol with
  | terminal => cases shows
  | nonterminal =>
    obtain rfl := Symbol.nonterminal.inj shows
    exact h
  | «alias» => exact isRepetition_of_unaliased shows
  | error => cases shows

/-- What a well-built phrase without repetitions shows below it, but for the comments. -/
theorem Source.structural {text : List Glyph} {phrase : Nonterminal} {layout : Layout}
    {children : List Tree} {n : Node} (h : (node phrase layout children).Source n)
    (built : (node phrase layout children).Built text)
    (lasting : ∀ p ∈ productions phrase, ∀ i ∈ p, i.isRepetition = false) :
    List.Forall₂ Source (children.filter fun t => !t.isComment) n.structural ∧
      n.structural.map (fun n => (⟨n.symbol, n.field⟩ : Item)) ∈ productions phrase := by
  obtain _ | ⟨makes, _⟩ := built
  obtain ⟨hsources, hitems⟩ :=
    sources_nodesFrom layout children 0 makes.children fun m hm => by
      rw [← makes.children, Reduction.children, List.mem_map] at hm
      obtain ⟨i, hi, hm⟩ := hm
      exact isRepetition_of_item (lasting _ makes.items i hi) hm
  cases h with
  | phrase => exact ⟨hsources, hitems ▸ makes.items⟩

/-- The tokens below a well-built phrase are those of its structural children. -/
theorem Source.tokens_eq {text : List Glyph} {t : Tree} {n : Node} (h : t.Source n)
    (built : t.Built text) (inhabited : n.structural ≠ []) :
    n.tokens = n.structural.flatMap Node.tokens := by
  cases h with
  | token => exact absurd rfl inhabited
  | @phrase phrase layout children symbol field shows lasting =>
    have hne : nodesFrom layout 0 children ≠ [] := by
      intro hnil
      exact inhabited (by rw [Node.structural, Node.spanning, Node.children, hnil]; rfl)
    have hextra : ∀ c ∈ nodesFrom layout 0 children, c.label.extra = true → c.tokens = [] := by
      intro c hc
      have hmem : c ∈ Node.insideAll (nodesFrom layout 0 children) := by
        rw [Node.insideAll_eq]
        exact List.mem_flatMap.2 ⟨c, hc, List.mem_cons_self⟩
      obtain ⟨s, _, hsource⟩ := built.exists_source.2 _ _ _ rfl c hmem
      exact hsource.tokens_of_extra
    have hleaves : (Node.spanning symbol field .origin (nodesFrom layout 0 children)).leaves =
        (nodesFrom layout 0 children).flatMap Node.leaves := by
      rw [Node.spanning, Node.leaves_of_ne_nil hne, Node.leavesOfAll_eq]
    rw [Node.tokens, hleaves, Node.structural]
    change List.filter _ _ = ((nodesFrom layout 0 children).filter _).flatMap _
    rw [List.filter_flatMap]
    generalize nodesFrom layout 0 children = nodes at hextra
    induction nodes with
    | nil => rfl
    | cons c nodes ih =>
      have hrest := ih fun d hd => hextra d (List.mem_cons_of_mem c hd)
      cases hc : c.label.extra with
      | true =>
        have hnone := hextra c List.mem_cons_self hc
        rw [List.flatMap_cons, hrest, List.filter_cons_of_neg (by simp [hc])]
        exact (congrArg (· ++ _) hnone).trans (List.nil_append _)
      | false =>
        rw [List.flatMap_cons, hrest, List.filter_cons_of_pos (by simp [hc]), List.flatMap_cons]
        rfl

end Tree
end Numscript
