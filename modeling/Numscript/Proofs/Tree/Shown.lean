import Numscript.Proofs.Tree.Built
import Numscript.Program
import Numscript.Tree.Form

/-!
# What well-built trees show

The visible tree of a well-built tree derives from the grammar. The items of a repetition stand in its
place, aliases stand for the symbols they hide, and children carry their fields: read in this way the
children of every phrase follow its rule.
-/
namespace Numscript

open Grammar (Item Spells productions rule sameItem Derives unaliased IsLexeme)
open Automaton (Reduction)

namespace Node

/-- Comments show under their own symbols. -/
def isComment (n : Node) : Bool :=
  n.symbol = .terminal .lineComment || n.symbol = .terminal .multilineComment

/-- What a rule sees of nodes that stand side by side. -/
def items (nodes : List Node) : List Item :=
  (nodes.filter fun n => !n.isComment).map fun n => ⟨n.symbol, n.field⟩

theorem items_append (a b : List Node) : items (a ++ b) = items a ++ items b := by
  simp [items]

theorem items_singleton {n : Node} (h : n.isComment = false) :
    items [n] = [⟨n.symbol, n.field⟩] := by
  simp [items, h]

theorem forms_eq_map (source : List Glyph) (nodes : List Node) :
    Node.forms source nodes = nodes.map (·.form source) := by
  induction nodes with
  | nil => rfl
  | cons n nodes ih => rw [Node.forms, ih, List.map_cons]

theorem form_symbol (source : List Glyph) (n : Node) : (n.form source).symbol = n.symbol := by
  cases n
  rfl

theorem form_field (source : List Glyph) (n : Node) : (n.form source).field = n.field := by
  cases n
  rfl

theorem items_forms (source : List Glyph) (nodes : List Node) :
    Grammar.items (Node.forms source nodes) = items nodes := by
  rw [forms_eq_map, Grammar.items, List.filter_map, List.map_map, items]
  simp only [Function.comp_def, Form.isComment, form_symbol, form_field, isComment]

end Node

namespace Grammar

theorem field_of_repetition : ∀ n ∈ Nonterminal.all, ∀ p ∈ productions n, ∀ i ∈ p,
    i.isRepetition = true → i.field = none := by
  decide +kernel

end Grammar

/-- The items of children ask for these children, and for repetitions without a field. -/
def Fitting (items : List Item) (children : List Symbol) : Prop :=
  Reduction.children items = children ∧ ∀ i ∈ items, i.isRepetition = true → i.field = none

theorem MakesUp.fitting {phrase : Nonterminal} {layout : Layout} {children : List Symbol}
    (h : MakesUp phrase layout children) : Fitting (layout.items children) children :=
  ⟨h.children, fun i hi => Grammar.field_of_repetition phrase (Nonterminal.mem_all phrase) _ h.items i hi⟩

theorem isRepetition_of_unaliased {a : Alias} {n : Nonterminal}
    (h : unaliased (.alias a) = .nonterminal n) : n.isRepetition = false := by
  cases a <;> cases h
  rfl

theorem Terminal.isComment_eq (t : Terminal) :
    t.isComment = (decide (t = .lineComment) || decide (t = .multilineComment)) := by
  cases t <;> rfl

namespace Tree

theorem isRepetition_item_shown {t : Tree} {name : Option Alias} {field : Option Field}
    (h : ∀ phrase inner children, t = .node phrase inner children →
      phrase.isRepetition = false) :
    (⟨t.shownSymbol name, field⟩ : Item).isRepetition = false := by
  cases name with
  | some a => rfl
  | none =>
    cases t with
    | leaf token => rfl
    | node phrase inner children => exact h phrase inner children rfl

theorem isComment_shown_leaf {token : Token} (plain : token.kind.isComment = false)
    (field : Option Field) (name : Option Alias) :
    Node.isComment (.mk ⟨(leaf token).shownSymbol name, field, token.kind.isComment, token.start,
      token.stop⟩ []) = false := by
  rw [Terminal.isComment_eq] at plain
  cases name with
  | none => simpa [Node.isComment, Node.symbol, Node.label, shownSymbol, symbol] using plain
  | some a => rfl

theorem nodes_of_repetition {phrase : Nonterminal} (h : phrase.isRepetition = true) (layout : Layout)
    (children : List Tree) (field : Option Field) (name : Option Alias) :
    (node phrase layout children).nodes field name = nodesFrom layout 0 children := by
  rw [nodes, if_pos h]

theorem nodes_of_lasting {phrase : Nonterminal} (h : phrase.isRepetition = false) (layout : Layout)
    (children : List Tree) (field : Option Field) (name : Option Alias) :
    (node phrase layout children).nodes field name =
      [.spanning ((node phrase layout children).shownSymbol name) field .origin
        (nodesFrom layout 0 children)] := by
  rw [nodes, if_neg (by simp [h])]
  rfl

/-- A child shows what its item spells, if it is a phrase whose own children follow its rule. -/
theorem spells_nodes {t : Tree} {field : Option Field} {name : Option Alias}
    (plain : t.isComment = false)
    (fitting : Fitting [⟨t.shownSymbol name, field⟩] [t.symbol])
    (follows : ∀ phrase inner children, t = .node phrase inner children →
      (rule phrase).Fits sameItem (Node.items (nodesFrom inner 0 children))) :
    Spells [⟨t.shownSymbol name, field⟩] (Node.items (t.nodes field name)) := by
  obtain ⟨hchildren, hfields⟩ := fitting
  have hchild : unaliased (t.shownSymbol name) = t.symbol := (List.cons.inj hchildren).1
  have hfield := hfields _ (List.mem_singleton.2 rfl)
  cases t with
  | leaf token =>
    have hcomment := @isComment_shown_leaf token plain field name
    have hplain : (⟨(leaf token).shownSymbol name, field⟩ : Item).isRepetition = false :=
      isRepetition_item_shown (by rintro _ _ _ ⟨⟩)
    exact (Node.items_singleton hcomment) ▸ .single hplain .nil
  | node phrase inner children =>
    cases hrepetition : phrase.isRepetition with
    | true =>
      obtain rfl : name = none := by
        cases name with
        | none => rfl
        | some a =>
          have hnot := isRepetition_of_unaliased hchild
          rw [hrepetition] at hnot
          cases hnot
      obtain rfl := hfield hrepetition
      have hgather := Spells.gather hrepetition (follows phrase inner children rfl) .nil
      rw [List.append_nil] at hgather
      rw [nodes_of_repetition hrepetition]
      exact hgather
    | false =>
      have hcomment : Node.isComment (.spanning ((node phrase inner children).shownSymbol name)
          field .origin (nodesFrom inner 0 children)) = false := by
        cases name <;> rfl
      have hplain : (⟨(node phrase inner children).shownSymbol name, field⟩ : Item).isRepetition =
          false := by
        refine isRepetition_item_shown fun _ _ _ h => ?_
        cases h
        exact hrepetition
      rw [nodes_of_lasting hrepetition, Node.items_singleton hcomment]
      exact .single hplain .nil

theorem items_comment {c : Tree} (h : c.isComment = true) :
    Node.items (c.nodes none none) = [] := by
  cases c with
  | leaf token =>
    have hkind : token.kind.isComment = true := h
    rw [Terminal.isComment_eq] at hkind
    have hnode : Node.isComment (.mk ⟨.terminal token.kind, none, token.kind.isComment,
        token.start, token.stop⟩ []) = true := by
      simpa [Node.isComment, Node.symbol, Node.label] using hkind
    have hnodes : (leaf token).nodes none none = [.mk ⟨.terminal token.kind, none,
        token.kind.isComment, token.start, token.stop⟩ []] := rfl
    simp [hnodes, Node.items, hnode]
  | node => cases h

/-- The children of a phrase show what the items that the layout gives them spell. -/
theorem spells_nodesFrom {layout : Layout} {children : List Tree} {place : Nat}
    (fitting : Fitting (layout.itemsFrom place (structural children)) (structural children))
    (follows : ∀ c ∈ children, ∀ phrase inner below, c = .node phrase inner below →
      (rule phrase).Fits sameItem (Node.items (nodesFrom inner 0 below))) :
    Spells (layout.itemsFrom place (structural children))
      (Node.items (nodesFrom layout place children)) := by
  induction children generalizing place with
  | nil => exact .nil
  | cons c children ih =>
    have hrest := fun d hd => follows d (List.mem_cons_of_mem c hd)
    cases hc : c.isComment with
    | true =>
      rw [structural_comment hc] at fitting ⊢
      rw [nodesFrom, if_pos hc, Node.items_append, items_comment hc, List.nil_append]
      exact ih fitting hrest
    | false =>
      rw [structural_cons hc, Layout.itemsFrom] at fitting ⊢
      obtain ⟨hchildren, hfields⟩ := fitting
      obtain ⟨hchild, hothers⟩ := List.cons.inj hchildren
      rw [nodesFrom, if_neg (by simp [hc]), Node.items_append]
      refine Spells.append (p := [_]) ?_ (ih ⟨hothers, ?_⟩ hrest)
      · refine spells_nodes hc ⟨?_, ?_⟩ (follows c List.mem_cons_self)
        · exact congrArg (fun x => [x]) hchild
        · intro i hi
          obtain rfl := List.mem_singleton.1 hi
          exact hfields _ List.mem_cons_self
      · exact fun i hi => hfields i (List.mem_cons_of_mem _ hi)

/-- The visible children of a well-built phrase follow its rule. -/
theorem follows_of_makesUp {phrase : Nonterminal} {layout : Layout} {children : List Tree}
    (makes : MakesUp phrase layout (structural children))
    (follows : ∀ c ∈ children, ∀ phrase inner below, c = .node phrase inner below →
      (rule phrase).Fits sameItem (Node.items (nodesFrom inner 0 below))) :
    (rule phrase).Fits sameItem (Node.items (nodesFrom layout 0 children)) :=
  Grammar.fits_rule_iff.2 ⟨_, makes.items, spells_nodesFrom makes.fitting follows⟩

theorem Built.follows {text : List Glyph} {t : Tree} (h : t.Built text) :
    ∀ phrase layout children, t = .node phrase layout children →
      (rule phrase).Fits sameItem (Node.items (nodesFrom layout 0 children)) := by
  induction h with
  | leaf => exact fun _ _ _ h => nomatch h
  | @node phrase layout children makes _ ih =>
    intro _ _ _ h
    cases h
    exact follows_of_makesUp makes ih

theorem derives_leaf {text : List Glyph} {token : Token} (spans : token.Spans text)
    {name : Option Alias} {field : Option Field}
    (shows : unaliased ((leaf token).shownSymbol name) = .terminal token.kind) :
    ∀ n ∈ (leaf token).nodes field name, Derives (n.form text) := by
  intro n hn
  obtain rfl := List.mem_singleton.1 hn
  obtain ⟨before, word, after, rfl, hlexeme, hstart, hstop⟩ := spans
  refine .token shows ?_
  have hbetween : Glyph.between token.start.byte token.stop.byte (before ++ word ++ after) =
      word := by
    rw [hstart, hstop, Point.behind_byte, Point.behind_byte]
    simpa [Point.origin] using Glyph.between_word before word after
  change IsLexeme token.kind
    (Glyph.between token.start.byte token.stop.byte (before ++ word ++ after))
  rw [hbetween]
  exact hlexeme

/-- A phrase derives when its visible children follow its rule and derive themselves. -/
theorem derives_phrase {text : List Glyph} {label : Label} {phrase : Nonterminal}
    {children : List Node} (shows : unaliased label.symbol = .nonterminal phrase)
    (place : children = [] → label.start = label.stop)
    (follows : (rule phrase).Fits sameItem (Node.items children))
    (below : ∀ n ∈ children, Derives (n.form text)) : Derives (Node.form text (.mk label children)) := by
  have htext : (if children.isEmpty then
      Glyph.between label.start.byte label.stop.byte text else []) = [] := by
    cases children with
    | nil => rw [place rfl, Glyph.between_self]; rfl
    | cons => rfl
  rw [Node.form, htext]
  refine .phrase shows ?_ fun f hf => ?_
  · rw [Node.items_forms]
    exact follows
  · rw [Node.forms_eq_map] at hf
    obtain ⟨n, hn, rfl⟩ := List.mem_map.1 hf
    exact below n hn

/-- What stands below a phrase is shown by one of its children: by a comment without a field, or by a child
in the role that the layout gives to it. -/
theorem exists_child_of_mem_nodesFrom {layout : Layout} {children : List Tree} {place : Nat}
    (fitting : Reduction.children (layout.itemsFrom place (structural children)) =
      structural children) {n : Node} (hn : n ∈ nodesFrom layout place children) :
    ∃ c ∈ children, ∃ field name, unaliased (c.shownSymbol name) = c.symbol ∧
      (c.isComment = true ∧ field = none ∨
        ⟨c.shownSymbol name, field⟩ ∈ layout.itemsFrom place (structural children)) ∧
      n ∈ c.nodes field name := by
  induction children generalizing place with
  | nil => cases hn
  | cons c children ih =>
    rw [nodesFrom] at hn
    cases hc : c.isComment with
    | true =>
      rw [structural_comment hc] at fitting ⊢
      rw [if_pos hc] at hn
      rcases List.mem_append.1 hn with hn | hn
      · exact ⟨c, List.mem_cons_self, none, none, by cases c <;> rfl, .inl ⟨hc, rfl⟩, hn⟩
      · obtain ⟨d, hd, hshown⟩ := ih fitting hn
        exact ⟨d, List.mem_cons_of_mem c hd, hshown⟩
    | false =>
      rw [structural_cons hc, Layout.itemsFrom] at fitting ⊢
      obtain ⟨hchild, hothers⟩ := List.cons.inj fitting
      rw [if_neg (by simp [hc])] at hn
      rcases List.mem_append.1 hn with hn | hn
      · exact ⟨c, List.mem_cons_self, _, _, hchild, .inr List.mem_cons_self, hn⟩
      · obtain ⟨d, hd, field, name, hshows, hrole, hn⟩ := ih hothers hn
        exact ⟨d, List.mem_cons_of_mem c hd, field, name, hshows,
          hrole.imp_right (List.mem_cons_of_mem _), hn⟩

/-- All that a well-built tree shows derives from the grammar. -/
theorem Built.derives {text : List Glyph} {t : Tree} (h : t.Built text) :
    (∀ field name, unaliased (t.shownSymbol name) = t.symbol →
      ∀ n ∈ t.nodes field name, Derives (n.form text)) ∧
    ∀ phrase layout children, t = .node phrase layout children →
      ∀ n ∈ nodesFrom layout 0 children, Derives (n.form text) := by
  induction h with
  | leaf spans => exact ⟨fun _ _ shows => derives_leaf spans shows, fun _ _ _ h => nomatch h⟩
  | @node phrase layout children makes below ih =>
    have hinner : ∀ n ∈ nodesFrom layout 0 children, Derives (n.form text) := by
      intro n hn
      obtain ⟨c, hc, field, name, hchild, _, hn⟩ := exists_child_of_mem_nodesFrom makes.children hn
      exact (ih c hc).1 field name hchild n hn
    refine ⟨fun field name shows n hn => ?_, fun _ _ _ h => by cases h; exact hinner⟩
    rw [nodes] at hn
    split at hn
    · exact hinner n hn
    · obtain rfl := List.mem_singleton.1 hn
      refine derives_phrase shows ?_ ((Built.node makes below).follows _ _ _ rfl) hinner
      intro hnil
      rw [hnil]
      rfl

/-- The visible tree of a well-built program derives from the grammar. -/
theorem Built.derives_program {text : List Glyph} {layout : Layout} {children : List Tree}
    (h : (Tree.node .program layout children).Built text) (textEnd : Point) :
    Derives (((Tree.node .program layout children).program textEnd).form text) := by
  have hinner := h.derives.2 _ _ _ rfl
  have hshows : unaliased (.nonterminal .program) = .nonterminal .program := rfl
  refine derives_phrase hshows ?_ (h.follows _ _ _ rfl) hinner
  intro hnil
  rw [hnil]
  rfl

end Tree

namespace Grammar

theorem symbol_withoutComments (f : Form) : f.withoutComments.symbol = f.symbol := by
  cases f
  rfl

theorem field_withoutComments (f : Form) : f.withoutComments.field = f.field := by
  cases f
  rfl

theorem dropComments_eq (forms : List Form) :
    Form.dropComments forms = (forms.filter fun f => !f.isComment).map Form.withoutComments := by
  induction forms with
  | nil => rfl
  | cons f forms ih =>
    rw [Form.dropComments, ih]
    cases hc : f.isComment <;> simp [hc]

theorem items_dropComments (forms : List Form) : items (Form.dropComments forms) = items forms := by
  have hcomment : ∀ f : Form, f.withoutComments.isComment = f.isComment := fun f => by
    rw [Form.isComment, Form.isComment, symbol_withoutComments]
  rw [dropComments_eq, items, items, List.filter_map, List.map_map, List.filter_filter]
  simp only [Function.comp_def, hcomment, symbol_withoutComments, field_withoutComments,
    Bool.and_self]

theorem Derives.withoutComments {f : Form} (h : Derives f) : Derives f.withoutComments := by
  induction h with
  | token shows lexeme => exact .token shows lexeme
  | @phrase s n field children shows follows _ ih =>
    refine .phrase shows ?_ fun f hf => ?_
    · rw [items_dropComments]
      exact follows
    · rw [dropComments_eq] at hf
      obtain ⟨c, hc, rfl⟩ := List.mem_map.1 hf
      exact ih c (List.mem_of_mem_filter hc)

end Grammar
end Numscript
