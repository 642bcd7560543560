import Numscript.Proofs.Tree.Shown
import Numscript.Proofs.Tree.Kin
import Numscript.Tree.Outline

/-!
# Leaves

The leaves of the visible tree are the tokens of the parsed one, in order and each exactly once, whether
they show under an alias or below a repetition. Every other node but an empty program has leaves below
it, and spans from the first of them to the last.
-/
namespace Numscript

open Grammar (productions unaliased)
open Automaton (Reduction)

/-- A label of the visible tree shows a token. -/
structure Label.Shows (token : Token) (label : Label) : Prop where
  symbol : unaliased label.symbol = .terminal token.kind
  extra : label.extra = token.kind.isComment
  start : label.start = token.start
  stop : label.stop = token.stop

namespace Node

mutual

/-- The nodes below a node, in pre-order. -/
def inside : Node → List Node
  | .mk _ children => insideAll children

/-- The nodes of a list and those below them, in pre-order. -/
def insideAll : List Node → List Node
  | [] => []
  | n :: rest => n :: (n.inside ++ insideAll rest)

end

theorem insideAll_eq (nodes : List Node) : insideAll nodes = nodes.flatMap fun n => n :: n.inside := by
  induction nodes with
  | nil => rfl
  | cons n nodes ih => rw [insideAll, ih, List.flatMap_cons, List.cons_append]

theorem leavesOfAll_eq (nodes : List Node) : leavesOfAll nodes = nodes.flatMap leaves := by
  induction nodes with
  | nil => rfl
  | cons n nodes ih => rw [leavesOfAll, ih, List.flatMap_cons]

theorem leavesOfAll_append (a b : List Node) :
    leavesOfAll (a ++ b) = leavesOfAll a ++ leavesOfAll b := by
  simp [leavesOfAll_eq]

theorem leaves_of_ne_nil {label : Label} {children : List Node} (h : children ≠ []) :
    (mk label children).leaves = leavesOfAll children := by
  cases children with
  | nil => exact absurd rfl h
  | cons n children => rfl

theorem leaves_sublist {nodes : List Node} {n : Node} (h : n ∈ nodes) :
    n.leaves.Sublist (nodes.flatMap leaves) := by
  obtain ⟨a, b, rfl⟩ := List.append_of_mem h
  rw [List.flatMap_append, List.flatMap_cons]
  exact (List.sublist_append_left _ _).trans (List.sublist_append_right _ _)

/-- A node is a leaf, or it spans from its first child to its last one. -/
inductive Spanned : Node → Prop where
  | leaf {label : Label} (plain : (mk label []).leaves = [label]) : Spanned (mk label [])
  | inner {label : Label} {children : List Node} (some_ : children ≠ [])
      (start : ∀ c ∈ children.head?, label.start = c.label.start)
      (stop : ∀ c ∈ children.getLast?, label.stop = c.label.stop)
      (below : ∀ c ∈ children, Spanned c) : Spanned (mk label children)

theorem Spanned.of_mem_inside {n c : Node} (h : n.Spanned) (hc : c ∈ n.inside) :
    c.Spanned ∧ c.leaves.Sublist n.leaves := by
  induction h with
  | leaf => cases hc
  | @inner label children some_ start stop below ih =>
    rw [Node.inside, insideAll_eq, List.mem_flatMap] at hc
    obtain ⟨d, hd, hc⟩ := hc
    have hleaves : d.leaves.Sublist (mk label children).leaves := by
      rw [leaves_of_ne_nil some_, leavesOfAll_eq]
      exact leaves_sublist hd
    rcases List.mem_cons.1 hc with rfl | hc
    · exact ⟨below _ hd, hleaves⟩
    · exact ⟨(ih d hd hc).1, (ih d hd hc).2.trans hleaves⟩

/-- A node spans from its first leaf to its last one. -/
theorem Spanned.ends {n : Node} (h : n.Spanned) :
    (∃ l ∈ n.leaves.head?, n.label.start = l.start) ∧
      ∃ l ∈ n.leaves.getLast?, n.label.stop = l.stop := by
  induction h with
  | leaf plain =>
    rw [plain]
    exact ⟨⟨_, rfl, rfl⟩, ⟨_, rfl, rfl⟩⟩
  | @inner label children some_ start stop below ih =>
    rw [leaves_of_ne_nil some_, leavesOfAll_eq]
    constructor
    · obtain ⟨c, rest, rfl⟩ := List.exists_cons_of_ne_nil some_
      obtain ⟨l, hl, hstart⟩ := (ih c List.mem_cons_self).1
      refine ⟨l, ?_, (start c rfl).trans hstart⟩
      rw [List.flatMap_cons, List.head?_append, Option.mem_def.1 hl]
      rfl
    · obtain ⟨rest, c, rfl⟩ : ∃ rest c, children = rest ++ [c] :=
        ⟨_, _, (List.dropLast_concat_getLast some_).symm⟩
      obtain ⟨l, hl, hstop⟩ := (ih c (by simp)).2
      refine ⟨l, ?_, (stop c (by simp)).trans hstop⟩
      rw [List.flatMap_append, List.flatMap_cons, List.flatMap_nil, List.append_nil,
        List.getLast?_append, Option.mem_def.1 hl]
      rfl

end Node

/-- Labels stand behind one another, and each takes room. -/
structure Label.InOrder (labels : List Label) : Prop where
  room : ∀ l ∈ labels, l.start.byte < l.stop.byte
  apart : labels.Pairwise fun a b => a.stop.byte ≤ b.start.byte

theorem Label.InOrder.sublist {a b : List Label} (h : InOrder b) (hab : a.Sublist b) : InOrder a :=
  ⟨fun l hl => h.room l (hab.subset hl), h.apart.sublist hab⟩

/-- The first label starts before any other, and the last one stops behind it. -/
theorem Label.InOrder.bounds {labels : List Label} (h : InOrder labels) {first last l : Label}
    (hfirst : first ∈ labels.head?) (hlast : last ∈ labels.getLast?) (hl : l ∈ labels) :
    first.start.byte ≤ l.start.byte ∧ l.stop.byte ≤ last.stop.byte := by
  constructor
  · cases labels with
    | nil => cases hl
    | cons a labels =>
      obtain rfl : a = first := Option.some.inj hfirst
      rcases List.mem_cons.1 hl with rfl | hl
      · exact Nat.le_refl _
      · have hroom := h.room a List.mem_cons_self
        have hapart := (List.pairwise_cons.1 h.apart).1 l hl
        omega
  · obtain ⟨rest, rfl⟩ : ∃ rest, labels = rest ++ [last] := by
      exact List.getLast?_eq_some_iff.1 hlast
    rcases List.mem_append.1 hl with hl | hl
    · have hroom := h.room last (by simp)
      have hapart := (List.pairwise_append.1 h.apart).2.2 l hl last (by simp)
      omega
    · obtain rfl := List.mem_singleton.1 hl
      exact Nat.le_refl _

/-- A node lies inside another one whose leaves include its own. -/
theorem Node.Spanned.within {n c : Node} (h : n.Spanned) (hc : c.Spanned)
    (hleaves : c.leaves.Sublist n.leaves) (order : Label.InOrder n.leaves) :
    n.label.start.byte ≤ c.label.start.byte ∧ c.label.stop.byte ≤ n.label.stop.byte := by
  obtain ⟨⟨first, hfirst, hstart⟩, ⟨last, hlast, hstop⟩⟩ := h.ends
  obtain ⟨⟨first', hfirst', hstart'⟩, ⟨last', hlast', hstop'⟩⟩ := hc.ends
  rw [hstart, hstop, hstart', hstop']
  exact ⟨(order.bounds hfirst hlast (hleaves.subset (List.mem_of_mem_head? hfirst'))).1,
    (order.bounds hfirst hlast (hleaves.subset (List.mem_of_mem_getLast? hlast'))).2⟩

namespace Tree

theorem productions_solid : ∀ n ∈ Nonterminal.all, ∀ p ∈ productions n,
    (n = .program ∨ p ≠ []) ∧ ∀ i ∈ p, unaliased i.symbol ≠ .nonterminal .program := by
  decide +kernel

theorem mem_structural {children : List Tree} {c : Tree} (hc : c ∈ children)
    (plain : c.isComment = false) : c.symbol ∈ structural children :=
  List.mem_map.2 ⟨c, List.mem_filter.2 ⟨hc, by simp [plain]⟩, rfl⟩

theorem MakesUp.ne_program {phrase : Nonterminal} {layout : Layout} {children : List Symbol}
    (makes : MakesUp phrase layout children) : ∀ x ∈ children, x ≠ .nonterminal .program := by
  rw [← makes.children]
  intro x hx
  obtain ⟨i, hi, rfl⟩ := List.mem_map.1 hx
  exact (productions_solid phrase (Nonterminal.mem_all phrase) _ makes.items).2 i hi

theorem Built.tokens_ne_nil {text : List Glyph} {t : Tree} (h : t.Built text)
    (inner : t.symbol ≠ .nonterminal .program) : t.tokens ≠ [] := by
  induction h with
  | leaf => exact List.cons_ne_nil _ _
  | @node phrase layout children makes _ ih =>
    have hne : structural children ≠ [] := by
      intro hnil
      have hitems := (productions_solid phrase (Nonterminal.mem_all phrase) _ makes.items).1
      rw [hnil] at hitems
      rcases hitems with rfl | hitems
      · exact inner rfl
      · exact hitems rfl
    obtain ⟨x, hx⟩ := List.exists_mem_of_ne_nil _ hne
    obtain ⟨c, hc, rfl⟩ := List.mem_map.1 hx
    have htokens := ih c (List.mem_of_mem_filter hc) (MakesUp.ne_program makes _ hx)
    rw [tokens_node]
    intro hnil
    exact htokens (List.flatMap_eq_nil_iff.1 hnil c (List.mem_of_mem_filter hc))

/-- Nodes that show the tokens of a tree, each spanning its own leaves. -/
structure Displays (tokens : List Token) (nodes : List Node) : Prop where
  leaves : List.Forall₂ Label.Shows tokens (Node.leavesOfAll nodes)
  spanned : ∀ n ∈ nodes, n.Spanned

theorem Displays.append {s t : List Token} {a b : List Node} (h : Displays s a)
    (h' : Displays t b) : Displays (s ++ t) (a ++ b) where
  leaves := by
    rw [Node.leavesOfAll_append]
    exact List.rel_append h.leaves h'.leaves
  spanned n hn := (List.mem_append.1 hn).elim (h.spanned n) (h'.spanned n)

theorem Displays.ne_nil {tokens : List Token} {nodes : List Node} (h : Displays tokens nodes)
    (some_ : tokens ≠ []) : nodes ≠ [] := by
  rintro rfl
  have hleaves := h.leaves
  cases hleaves
  exact some_ rfl

/-- All nodes below the displayed ones span their own leaves, which are among the displayed tokens. -/
theorem Displays.inside {tokens : List Token} {nodes : List Node} (h : Displays tokens nodes)
    {n : Node} (hn : n ∈ Node.insideAll nodes) :
    n.Spanned ∧ n.leaves.Sublist (Node.leavesOfAll nodes) := by
  rw [Node.insideAll_eq] at hn
  obtain ⟨c, hc, hn⟩ := List.mem_flatMap.1 hn
  have hleaves : c.leaves.Sublist (Node.leavesOfAll nodes) := by
    rw [Node.leavesOfAll_eq]
    exact Node.leaves_sublist hc
  rcases List.mem_cons.1 hn with rfl | hn
  · exact ⟨h.spanned _ hc, hleaves⟩
  · obtain ⟨hspanned, hsublist⟩ := (h.spanned c hc).of_mem_inside hn
    exact ⟨hspanned, hsublist.trans hleaves⟩

theorem displays_leaf {token : Token} {field : Option Field} {name : Option Alias}
    (shows : unaliased ((leaf token).shownSymbol name) = .terminal token.kind) :
    Displays [token] ((leaf token).nodes field name) := by
  have hleaves : Node.leavesOfAll ((leaf token).nodes field name) =
      [⟨(leaf token).shownSymbol name, field, token.kind.isComment, token.start, token.stop⟩] := by
    cases name with
    | none => rfl
    | some a => rfl
  refine ⟨?_, fun n hn => ?_⟩
  · rw [hleaves]
    exact .cons ⟨shows, rfl, rfl, rfl⟩ .nil
  · obtain rfl := List.mem_singleton.1 hn
    cases name with
    | none => exact .leaf rfl
    | some a => exact .leaf rfl

/-- A phrase over nodes spans from the first to the last of them. -/
theorem displays_spanning {tokens : List Token} {nodes : List Node} (h : Displays tokens nodes)
    (some_ : tokens ≠ []) (symbol : Symbol) (field : Option Field) (place : Point) :
    Displays tokens [.spanning symbol field place nodes] := by
  have hne := h.ne_nil some_
  refine ⟨?_, fun n hn => ?_⟩
  · rw [Node.leavesOfAll, Node.leavesOfAll, List.append_nil, Node.spanning,
      Node.leaves_of_ne_nil hne]
    exact h.leaves
  · obtain rfl := List.mem_singleton.1 hn
    refine .inner hne (fun c hc => ?_) (fun c hc => ?_) h.spanned
    · rw [Option.mem_def.1 hc]
      rfl
    · rw [Option.mem_def.1 hc]
      rfl

theorem displays_nodesFrom {layout : Layout} {children : List Tree} {place : Nat}
    (fitting : Reduction.children (layout.itemsFrom place (structural children)) =
      structural children)
    (below : ∀ c ∈ children, ∀ field name, unaliased (c.shownSymbol name) = c.symbol →
      c.symbol ≠ .nonterminal .program → Displays c.tokens (c.nodes field name))
    (inner : ∀ x ∈ structural children, x ≠ .nonterminal .program) :
    Displays (tokensOfAll children) (nodesFrom layout place children) := by
  induction children generalizing place with
  | nil => exact ⟨.nil, List.forall_mem_nil _⟩
  | cons c children ih =>
    have hrest := fun d hd => below d (List.mem_cons_of_mem c hd)
    rw [nodesFrom, tokensOfAll]
    cases hc : c.isComment with
    | true =>
      rw [structural_comment hc] at fitting inner
      rw [if_pos rfl]
      refine .append (below c List.mem_cons_self none none ?_ ?_) (ih fitting hrest inner)
      · cases c with
        | leaf token => rfl
        | node => rfl
      · cases c with
        | leaf token => rintro ⟨⟩
        | node => cases hc
    | false =>
      rw [structural_cons hc] at inner
      rw [structural_cons hc, Layout.itemsFrom] at fitting
      obtain ⟨hchild, hothers⟩ := List.cons.inj fitting
      rw [if_neg (by simp)]
      exact .append (below c List.mem_cons_self _ _ hchild (inner _ List.mem_cons_self))
        (ih hothers hrest fun x hx => inner x (List.mem_cons_of_mem _ hx))

/-- What a well-built tree shows has the tokens of the tree for its leaves. -/
theorem Built.displays {text : List Glyph} {t : Tree} (h : t.Built text) :
    (∀ field name, unaliased (t.shownSymbol name) = t.symbol → t.symbol ≠ .nonterminal .program →
      Displays t.tokens (t.nodes field name)) ∧
    ∀ phrase layout children, t = .node phrase layout children →
      Displays t.tokens (nodesFrom layout 0 children) := by
  induction h with
  | leaf => exact ⟨fun _ _ shows _ => displays_leaf shows, fun _ _ _ h => nomatch h⟩
  | @node phrase layout children makes below ih =>
    have hinner : Displays (tokensOfAll children) (nodesFrom layout 0 children) :=
      displays_nodesFrom makes.children (fun c hc => (ih c hc).1) (MakesUp.ne_program makes)
    refine ⟨fun field name shows inner => ?_, fun _ _ _ h => by cases h; exact hinner⟩
    have htokens := (Built.node makes below).tokens_ne_nil inner
    rw [nodes]
    split
    · exact hinner
    · exact displays_spanning hinner htokens _ _ _

end Tree
end Numscript
