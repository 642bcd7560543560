import Numscript.Proofs.Tree.Structural
import Numscript.Proofs.Parser.Grouping
import Numscript.Proofs.Stretch

/-!
# Precedence of operators

In the tree of every valid program operations group from the left, quotients before sums, wherever a value may
stand. So a chain of operands with operators between them has one tree: each maximal run of quotients first,
and these added and subtracted from the left.
-/
namespace Numscript

open Automaton (Reduction operators)
open Grammar (Item productions unaliased tightness)

/-- How a value is put together from operands that are no operations themselves. -/
inductive Arrangement where
  | operand (n : Node)
  | operation (left : Arrangement) (op : Node) (right : Arrangement)

/-- An operand, and further ones with the operators before them. -/
structure Chain where
  first : Node
  rest : List (Node × Node)

namespace Arrangement

/-- The operator of an operation. -/
def operator? : Arrangement → Option Terminal
  | .operation _ op _ =>
    match op.symbol with
    | .terminal o => some o
    | _ => none
  | .operand _ => none

/-- The operands and operators from left to right. -/
def chain : Arrangement → Chain
  | .operand n => ⟨n, []⟩
  | .operation left op right =>
    ⟨left.chain.first, left.chain.rest ++ (op, right.chain.first) :: right.chain.rest⟩

/-- All operands need no parentheses. -/
def Grouped : Arrangement → Prop
  | .operand _ => True
  | .operation left op right => (∃ o ∈ operators, op.symbol = .terminal o ∧
      (∀ o' ∈ left.operator?, tightness o ≤ tightness o') ∧
      ∀ o' ∈ right.operator?, tightness o < tightness o') ∧ left.Grouped ∧ right.Grouped

end Arrangement

namespace Chain

/-- The first run of quotients, and the further ones with the operators before them. -/
def runs (run : Arrangement) : List (Node × Node) → Arrangement × List (Node × Arrangement)
  | [] => (run, [])
  | (op, n) :: rest =>
    if op.symbol = .terminal .slash then runs (.operation run op (.operand n)) rest
    else (run, (op, (runs (.operand n) rest).1) :: (runs (.operand n) rest).2)

/-- Runs are added and subtracted from the left. -/
def sum (run : Arrangement) (further : List (Node × Arrangement)) : Arrangement :=
  further.foldl (fun left term => .operation left term.1 term.2) run

/-- The arrangement of a chain: each maximal run of quotients first, and the runs from the left. -/
def group (c : Chain) : Arrangement :=
  sum (runs (.operand c.first) c.rest).1 (runs (.operand c.first) c.rest).2

/-- The operands of a chain. -/
def operands (c : Chain) : List Node := c.first :: c.rest.map (·.2)

/-- The operands and operators of a chain from left to right. -/
def nodes (c : Chain) : List Node := c.first :: c.rest.flatMap fun e => [e.1, e.2]

end Chain

namespace Arrangement

theorem operands_operation (left right : Arrangement) (op : Node) :
    (operation left op right).chain.operands = left.chain.operands ++ right.chain.operands := by
  simp [chain, Chain.operands]

theorem nodes_operation (left right : Arrangement) (op : Node) :
    (operation left op right).chain.nodes = left.chain.nodes ++ op :: right.chain.nodes := by
  simp [chain, Chain.nodes]

/-- A run of quotients: an operand, or a quotient of a run and an operand. -/
inductive IsRun : Arrangement → Prop where
  | operand (n : Node) : IsRun (.operand n)
  | quotient {left : Arrangement} {op : Node} {n : Node} (h : IsRun left)
      (slash : op.symbol = .terminal .slash) : IsRun (.operation left op (.operand n))

/-- Before a sum or a difference a run ends. -/
theorem runs_of_ne_slash {a b : Arrangement} {more : List (Node × Node)}
    (h : ∀ e ∈ more.head?, e.1.symbol ≠ .terminal .slash) :
    Chain.runs a more = (a, (Chain.runs b more).2) := by
  cases more with
  | nil => rfl
  | cons e more => rw [Chain.runs, Chain.runs, if_neg (h e rfl), if_neg (h e rfl)]

theorem eq_slash_of_tightness {o : Terminal} (h : 1 < tightness o) : o = .slash := by
  by_contra hne
  rw [Parser.tightness_of_ne_slash hne] at h
  exact Nat.lt_irrefl 1 h

theorem Grouped.exists_operator {left right : Arrangement} {op : Node}
    (h : (operation left op right).Grouped) :
    ∃ o ∈ (operation left op right).operator?, o ∈ operators := by
  obtain ⟨⟨o, ho, hop, _⟩, _⟩ := h
  exact ⟨o, by rw [operator?, hop]; rfl, ho⟩

theorem Grouped.isRun {a : Arrangement} (h : a.Grouped) (divides : ∀ o ∈ a.operator?, o = .slash) :
    a.IsRun := by
  induction a with
  | operand n => exact .operand n
  | operation left op right ihl _ =>
    obtain ⟨⟨o, _, hop, hl, hr⟩, hleft, hright⟩ := h
    obtain rfl : o = .slash := divides o (by rw [operator?, hop]; rfl)
    have hrun := ihl hleft fun o' ho' => eq_slash_of_tightness (hl o' ho')
    cases right with
    | operand n => exact .quotient hrun hop
    | operation =>
      obtain ⟨o', ho', _⟩ := hright.exists_operator
      have htight := hr o' ho'
      have hbound : tightness o' ≤ tightness .slash := by
        unfold tightness
        split <;> decide
      omega

theorem IsRun.runs_eq {a : Arrangement} (h : a.IsRun) (more : List (Node × Node)) :
    Chain.runs (.operand a.chain.first) (a.chain.rest ++ more) = Chain.runs a more := by
  induction h generalizing more with
  | operand => rfl
  | quotient _ slash ih =>
    rw [chain, List.append_assoc, ih, chain, List.cons_append, List.nil_append, Chain.runs, if_pos slash]

/-- The runs of a grouped arrangement add up to it, with what stands behind it. -/
theorem Grouped.sum_runs {a : Arrangement} (h : a.Grouped) (more : List (Node × Node))
    (ends : a.IsRun ∨ ∀ e ∈ more.head?, e.1.symbol ≠ .terminal .slash) :
    Chain.sum (Chain.runs (.operand a.chain.first) (a.chain.rest ++ more)).1
        (Chain.runs (.operand a.chain.first) (a.chain.rest ++ more)).2 =
      Chain.sum (Chain.runs a more).1 (Chain.runs a more).2 := by
  induction a generalizing more with
  | operand => rfl
  | operation left op right ihl _ =>
    rcases ends with hrun | hmore
    · rw [hrun.runs_eq]
    obtain ⟨⟨o, ho, hop, hl, hr⟩, hleft, hright⟩ := id h
    by_cases hslash : o = .slash
    · have hrun := h.isRun fun o' ho' => by
        rw [operator?, hop] at ho'
        exact (Option.some.inj ho').symm.trans hslash
      rw [hrun.runs_eq]
    have hne : op.symbol ≠ .terminal .slash := by
      rw [hop]
      exact fun h => hslash (Symbol.terminal.inj h)
    have hrun : right.IsRun := hright.isRun fun o' ho' => eq_slash_of_tightness
      (lt_of_eq_of_lt (Parser.tightness_of_ne_slash hslash).symm (hr o' ho'))
    rw [chain, List.append_assoc, List.cons_append,
      ihl hleft ((op, right.chain.first) :: (right.chain.rest ++ more)) (.inr ?_),
      Chain.runs, if_neg hne, hrun.runs_eq, runs_of_ne_slash (b := operation left op right) hmore,
      runs_of_ne_slash (b := right) hmore]
    · rfl
    · rintro _ ⟨⟩
      exact hne

theorem Grouped.operators {a : Arrangement} (h : a.Grouped) :
    ∀ e ∈ a.chain.rest, ∃ o ∈ operators, e.1.symbol = .terminal o := by
  induction a with
  | operand => nofun
  | operation left op right ihl ihr =>
    obtain ⟨⟨o, ho, hop, _⟩, hleft, hright⟩ := h
    rw [chain, List.forall_mem_append, List.forall_mem_cons]
    exact ⟨ihl hleft, ⟨o, ho, hop⟩, ihr hright⟩

theorem Grouped.group_chain {a : Arrangement} (h : a.Grouped) : a.chain.group = a := by
  have hsum := h.sum_runs [] (.inr nofun)
  rwa [List.append_nil] at hsum

end Arrangement

namespace Node

mutual

/-- How a value or an operation is put together, and any other node as an operand. -/
def arrangement : Node → Arrangement
  | .mk label children =>
    match unaliased label.symbol, arrangements children with
    | .nonterminal .infixExpr, [left, .operand op, right] => .operation left op right
    | .nonterminal .valueExpr, [.operation left op right] => .operation left op right
    | _, _ => .operand (.mk label children)

/-- How some nodes without the comments among them are put together. -/
def arrangements : List Node → List Arrangement
  | [] => []
  | n :: rest => if n.label.extra then arrangements rest else n.arrangement :: arrangements rest

end

theorem arrangements_eq (nodes : List Node) :
    arrangements nodes = (nodes.filter fun c => !c.label.extra).map arrangement := by
  induction nodes with
  | nil => rfl
  | cons n nodes ih =>
    rw [arrangements, ih]
    cases hn : n.label.extra <;> simp [hn]

/-- The operator of a value that is an operation. -/
def operator? (n : Node) : Option Terminal := n.arrangement.operator?

/-- A node is an operation: its structural children are a left operand, an operator and a right operand, each
in its field. -/
structure IsOperation (n left op right : Node) (o : Terminal) : Prop where
  children : n.structural = [left, op, right]
  fields : left.field = some .left ∧ op.field = some .op ∧ right.field = some .right
  operands : left.symbol = .nonterminal .valueExpr ∧ right.symbol = .nonterminal .valueExpr
  operator : o ∈ operators ∧ op.symbol = .terminal o

theorem arrangement_of_childless (label : Label) :
    (mk label []).arrangement = .operand (mk label []) := by
  rw [arrangement, arrangements]
  split
  · next h => cases h
  · next h => cases h
  · rfl

theorem arrangement_eq (n : Node) : n.arrangement =
    match unaliased n.symbol, n.structural.map arrangement with
    | .nonterminal .infixExpr, [left, .operand op, right] => .operation left op right
    | .nonterminal .valueExpr, [.operation left op right] => .operation left op right
    | _, _ => .operand n := by
  obtain ⟨label, children⟩ := n
  rw [arrangement, arrangements_eq]
  rfl

theorem IsOperation.arrangement_eq {n left op right : Node} {o : Terminal}
    (h : n.IsOperation left op right o) (operation : unaliased n.symbol = .nonterminal .infixExpr)
    (leaf : op.arrangement = .operand op) :
    n.arrangement = .operation left.arrangement op right.arrangement := by
  rw [Node.arrangement_eq, operation, h.children, List.map_cons, List.map_cons, leaf]
  rfl

/-- A value is what the only node in it is, if that is an operation. -/
theorem arrangement_of_value {n inner : Node} (value : unaliased n.symbol = .nonterminal .valueExpr)
    (children : n.structural = [inner]) : n.arrangement =
      match inner.arrangement with
      | .operation left op right => .operation left op right
      | .operand _ => .operand n := by
  rw [arrangement_eq, value, children, List.map_singleton]
  cases inner.arrangement <;> rfl

theorem arrangement_of_other {n : Node} (value : unaliased n.symbol ≠ .nonterminal .valueExpr)
    (operation : unaliased n.symbol ≠ .nonterminal .infixExpr) : n.arrangement = .operand n := by
  rw [arrangement_eq]
  split
  · next h _ => exact absurd h operation
  · next h _ => exact absurd h value
  · rfl

end Node

namespace Tree

theorem Source.arrangement_leaf {token : Token} {n : Node} (h : (leaf token).Source n) :
    n.arrangement = .operand n := by
  cases h with
  | token => exact Node.arrangement_of_childless _

theorem operator?_over {layout : Layout} {c : Tree} (h : c.symbol ≠ .nonterminal .valueExpr) :
    (node .valueExpr layout [c]).operator? = c.operator? := by
  cases hc : c.operator? with
  | some o =>
    unfold operator? at hc
    split at hc
    · exact hc
    · exact absurd rfl h
    · cases hc
  | none =>
    by_contra hne
    obtain ⟨o, ho⟩ := Option.ne_none_iff_exists'.1 hne
    rw [operator?_of_value ho] at hc
    cases hc

/-- What an operation shows. -/
theorem Source.exists_operation {text : List Glyph} {layout : Layout} {children : List Tree} {n : Node}
    (h : (node .infixExpr layout children).Source n)
    (built : (node .infixExpr layout children).Built text) : ∃ l token r left op right,
      children.filter (fun t => !t.isComment) = [l, .leaf token, r] ∧
      n.IsOperation left op right token.kind ∧ l.Source left ∧ (leaf token).Source op ∧
      r.Source right := by
  obtain ⟨hsources, hitems⟩ := h.structural built (by decide +kernel)
  obtain ⟨o, ho, hp⟩ := exists_operator hitems
  obtain ⟨left, more, hchildren, hleft, hmore⟩ := List.map_eq_cons_iff.1 hp
  obtain ⟨op, more, rfl, hop, hmore⟩ := List.map_eq_cons_iff.1 hmore
  obtain ⟨right, more, rfl, hright, hmore⟩ := List.map_eq_cons_iff.1 hmore
  obtain rfl := List.map_eq_nil_iff.1 hmore
  simp only [Item.mk.injEq] at hleft hop hright
  rw [hchildren, List.forall₂_cons_right_iff] at hsources
  obtain ⟨l, _, hl, hsources, hplain⟩ := hsources
  rw [List.forall₂_cons_right_iff] at hsources
  obtain ⟨t, _, ht, hsources, rfl⟩ := hsources
  rw [List.forall₂_cons_right_iff] at hsources
  obtain ⟨r, _, hr, hnil, rfl⟩ := hsources
  obtain rfl := List.forall₂_nil_right_iff.1 hnil
  obtain ⟨token, rfl, rfl⟩ := eq_leaf_of_symbol (k := o) (ht.unaliased_symbol.symm.trans
    (congrArg unaliased hop.1))
  exact ⟨l, token, r, left, op, right, hplain,
    ⟨hchildren, ⟨hleft.2, hop.2, hright.2⟩, ⟨hleft.1, hright.1⟩, ho, hop.1⟩, hl, ht, hr⟩

/-- What a value shows. -/
theorem Source.exists_inner {text : List Glyph} {layout : Layout} {children : List Tree} {n : Node}
    (h : (node .valueExpr layout children).Source n)
    (built : (node .valueExpr layout children).Built text) : ∃ c inner,
      children.filter (fun t => !t.isComment) = [c] ∧ n.structural = [inner] ∧ c.Source inner ∧
      c.symbol ≠ .nonterminal .valueExpr := by
  obtain ⟨hsources, hitems⟩ := h.structural built (by decide +kernel)
  obtain ⟨m, _, hp, hm⟩ := exists_value hitems
  obtain ⟨inner, more, hchildren, hinner, hmore⟩ := List.map_eq_cons_iff.1 hp
  obtain rfl := List.map_eq_nil_iff.1 hmore
  simp only [Item.mk.injEq] at hinner
  rw [hchildren, List.forall₂_cons_right_iff] at hsources
  obtain ⟨c, _, hc, hnil, hplain⟩ := hsources
  obtain rfl := List.forall₂_nil_right_iff.1 hnil
  refine ⟨c, inner, hplain, hchildren, hc, fun hvalue => hm ?_⟩
  have hsymbol := hc.unaliased_symbol.symm.trans (congrArg unaliased hinner.1)
  rw [hvalue] at hsymbol
  exact (Symbol.nonterminal.inj hsymbol).symm

/-- What an arrangement tells of the node that it is the arrangement of. -/
structure Arranged (t : Tree) (n : Node) : Prop where
  grouped : n.arrangement.Grouped
  operator : n.operator? = t.sifted.operator?
  operands : ∀ e ∈ n.arrangement.chain.operands, e.arrangement = .operand e
  tokens : n.arrangement.chain.nodes.flatMap Node.tokens = n.tokens

theorem arranged_of_operand {t : Tree} {n : Node} (h : n.arrangement = .operand n)
    (none_ : t.sifted.operator? = none) : t.Arranged n := by
  constructor
  · rw [h]
    trivial
  · rw [Node.operator?, h, none_]
    rfl
  · rw [h]
    intro e he
    obtain rfl := List.mem_singleton.1 he
    exact h
  · rw [h]
    exact List.append_nil _

section
variable {text : List Glyph} {layout : Layout} {children : List Tree} {n : Node}
  (below : ∀ c ∈ children, c.sifted.Grouped → ∀ m, c.Source m → c.Arranged m)
include below

/-- An operation is arranged around its operator, as its operands are. -/
theorem Source.arranged_operation (h : (node .infixExpr layout children).Source n)
    (built : (node .infixExpr layout children).Built text)
    (grouped : (node .infixExpr layout children).sifted.Grouped) :
    (node .infixExpr layout children).Arranged n := by
  obtain ⟨l, token, r, left, op, right, hplain, hoperation, hl, hop, hr⟩ := h.exists_operation built
  have hsifted : siftedAll children = [l.sifted, .leaf token, r.sifted] := by
    rw [siftedAll_eq, hplain]
    rfl
  rw [sifted, hsifted] at grouped
  have hmem : ∀ c ∈ [l, .leaf token, r], c ∈ children := fun c hc =>
    List.mem_of_mem_filter (hplain ▸ hc)
  have hleft := below l (hmem l (by simp)) (grouped.below _ (by simp)) left hl
  have hright := below r (hmem r (by simp)) (grouped.below _ (by simp)) right hr
  have harrangement := hoperation.arrangement_eq h.unaliased_symbol hop.arrangement_leaf
  obtain ⟨hbelow, habove⟩ := grouped _ _ .refl
  rw [← hleft.operator] at hbelow
  rw [← hright.operator] at habove
  constructor
  · rw [harrangement]
    exact ⟨⟨_, hoperation.operator.1, hoperation.operator.2, hbelow, habove⟩, hleft.grouped,
      hright.grouped⟩
  · rw [Node.operator?, harrangement, Arrangement.operator?, hoperation.operator.2, sifted, hsifted]
    rfl
  · rw [harrangement, Arrangement.operands_operation, List.forall_mem_append]
    exact ⟨hleft.operands, hright.operands⟩
  · rw [harrangement, Arrangement.nodes_operation, List.flatMap_append, List.flatMap_cons,
      hleft.tokens, hright.tokens, h.tokens_eq built (by simp [hoperation.children]),
      hoperation.children]
    simp

/-- A value is arranged as what it shows, if that is an operation, and is an operand otherwise. -/
theorem Source.arranged_value (h : (node .valueExpr layout children).Source n)
    (built : (node .valueExpr layout children).Built text)
    (grouped : (node .valueExpr layout children).sifted.Grouped) :
    (node .valueExpr layout children).Arranged n := by
  obtain ⟨c, inner, hplain, hinner, hc, hne⟩ := h.exists_inner built
  have hsifted : siftedAll children = [c.sifted] := by
    rw [siftedAll_eq, hplain]
    rfl
  rw [sifted, hsifted] at grouped
  obtain ⟨hgrouped, hoperator, hoperands, htokens⟩ :=
    below c (List.mem_of_mem_filter (hplain ▸ List.mem_singleton_self c))
      (grouped.below _ List.mem_cons_self) inner hc
  have hsame : (node .valueExpr layout children).sifted.operator? = inner.operator? := by
    rw [sifted, hsifted, operator?_over (by rwa [symbol_sifted]), hoperator]
  have harrangement := Node.arrangement_of_value h.unaliased_symbol hinner
  cases hcase : inner.arrangement with
  | operand =>
    rw [hcase] at harrangement
    exact arranged_of_operand harrangement (by rw [hsame, Node.operator?, hcase]; rfl)
  | operation =>
    rw [hcase] at harrangement
    have heq := harrangement.trans hcase.symm
    refine ⟨heq ▸ hgrouped, ?_, heq ▸ hoperands, ?_⟩
    · rw [hsame, Node.operator?, Node.operator?, heq]
    · rw [heq, htokens, h.tokens_eq built (by simp [hinner]), hinner]
      simp

end

/-- What is neither an operation nor a value is an operand. -/
theorem Source.arranged_other {phrase : Nonterminal} {layout : Layout} {children : List Tree} {n : Node}
    (h : (node phrase layout children).Source n) (infixed : phrase ≠ .infixExpr)
    (value : phrase ≠ .valueExpr) : (node phrase layout children).Arranged n := by
  have hne : ∀ m, m ≠ phrase → unaliased n.symbol ≠ .nonterminal m := by
    intro m hm hsymbol
    exact hm (Symbol.nonterminal.inj (hsymbol.symm.trans h.unaliased_symbol))
  refine arranged_of_operand
    (Node.arrangement_of_other (hne _ (Ne.symm value)) (hne _ (Ne.symm infixed)))
    (operator?_eq_none ?_ ?_)
  · exact fun h => value (Symbol.nonterminal.inj h)
  · exact fun h => infixed (Symbol.nonterminal.inj h)

/-- What a grouped tree shows is arranged in groups as well, with the same operator. -/
theorem Source.arranged {text : List Glyph} {t : Tree} (built : t.Built text)
    (grouped : t.sifted.Grouped) : ∀ n, t.Source n →
      t.Arranged n := by
  induction built with
  | leaf =>
    intro n h
    exact arranged_of_operand h.arrangement_leaf rfl
  | @node phrase layout children makes below ih =>
    intro n h
    have hbuilt := Built.node makes below
    by_cases hinfixed : phrase = .infixExpr
    · subst hinfixed
      exact h.arranged_operation ih hbuilt grouped
    by_cases hvalue : phrase = .valueExpr
    · subst hvalue
      exact h.arranged_value ih hbuilt grouped
    exact h.arranged_other hinfixed hvalue

/-- A value whose structural child is an operation has its operator. -/
theorem Source.operator_of_operation {text : List Glyph} {t : Tree} {n inner left op right : Node}
    {o : Terminal} (h : t.Source n) (built : t.Built text) (value : t.symbol = .nonterminal .valueExpr)
    (mem : inner ∈ n.structural) (operation : inner.symbol = .nonterminal .infixExpr)
    (parts : inner.IsOperation left op right o) : n.operator? = some o := by
  cases t with
  | leaf => cases value
  | node phrase layout children =>
    obtain rfl : phrase = .valueExpr := Symbol.nonterminal.inj value
    obtain ⟨c, inner', hplain, hchildren, hc, _⟩ := h.exists_inner built
    rw [hchildren] at mem
    obtain rfl := List.mem_singleton.1 mem
    obtain ⟨layout', children', rfl⟩ := hc.exists_phrase (congrArg unaliased operation)
    obtain _ | ⟨_, below⟩ := built
    have hmem : node .infixExpr layout' children' ∈ children :=
      List.mem_of_mem_filter (hplain ▸ List.mem_singleton_self _)
    obtain ⟨_, _, _, left', op', right', _, hoperation, _, hop, _⟩ := hc.exists_operation (below _ hmem)
    have hsame := parts.children.symm.trans hoperation.children
    simp only [List.cons.injEq, and_true] at hsame
    obtain ⟨rfl, rfl, rfl⟩ := hsame
    rw [Node.operator?, Node.arrangement_of_value h.unaliased_symbol hchildren,
      parts.arrangement_eq hc.unaliased_symbol hop.arrangement_leaf]
    simp only [Arrangement.operator?, parts.operator.2]

theorem Within.grouped {s t : Tree} (h : Within s t) (plain : s.isComment = false)
    (grouped : t.sifted.Grouped) : s.sifted.Grouped :=
  fun layout children within => grouped layout children (within.trans (h.sifted plain))

end Tree

/-- How operators group in the tree of a text from which some tokens were read. -/
structure OperatorsGroup (text : List Glyph) (tokens : List Token) (root : Node) : Prop where
  /-- The operands of an operation need no parentheses: the right one is no operation that binds as loosely,
  and the left one none that binds more loosely. -/
  operations : ∀ n ∈ root.inside, n.symbol = .nonterminal .infixExpr → ∃ left op right o,
    n.IsOperation left op right o ∧
      (∀ inner ∈ left.structural, inner.symbol = .nonterminal .infixExpr → ∀ l p r o',
        inner.IsOperation l p r o' → tightness o ≤ tightness o') ∧
      ∀ inner ∈ right.structural, inner.symbol = .nonterminal .infixExpr → ∀ l p r o',
        inner.IsOperation l p r o' → tightness o < tightness o'
  /-- A value is the one arrangement of a chain of operands that are no operations, with operators between
  them. The chain has the tokens of the value in their order, and these are all that was read of the text from where
  the value starts to where it ends, but for comments. -/
  chains : ∀ n ∈ root.inside, unaliased n.symbol = .nonterminal .valueExpr → ∃ (c : Chain) (read : List Token),
    n.arrangement = c.group ∧ (∀ e ∈ c.operands, e.arrangement = .operand e) ∧
      (∀ e ∈ c.rest, ∃ o ∈ operators, e.1.symbol = .terminal o) ∧
      c.nodes.flatMap Node.tokens = n.tokens ∧ n.Shows text tokens read ∧
      List.Forall₂ Label.Shows (read.filter fun t => !t.kind.isComment) (c.nodes.flatMap Node.tokens)

/-- Operators group from the left, quotients before sums, in the tree of every valid program. -/
theorem operators_group (bytes : List UInt8) (root : Node) (h : Program.ofBytes bytes = .valid root) :
    ∃ tokens tree, Parser.parse (Glyph.ofBytes bytes) = .valid tree ∧
      Parser.Accepts (Glyph.ofBytes bytes) tokens tree ∧ root = tree.program (Point.ofBytes bytes) ∧
      OperatorsGroup (Glyph.ofBytes bytes) tokens root := by
  obtain ⟨tokens, tree, hparse, haccepts, rfl, hshows⟩ := exists_tokens_of_valid bytes h
  have hrecognises := Parser.recognises_of_parse hparse
  have hgrouped := Parser.grouped_of_recognises hrecognises
  obtain ⟨hbuilt, layout, children, rfl⟩ := Parser.built_of_recognises hrecognises
  refine ⟨tokens, _, hparse, haccepts, rfl, ?_, ?_⟩
  · intro n hn operation
    obtain ⟨s, hs, hsource⟩ := hbuilt.exists_source_program _ n hn
    have hsymbol := hsource.unaliased_symbol
    rw [operation] at hsymbol
    cases s with
    | leaf => cases hsymbol
    | node phrase layout' children' =>
      obtain rfl : _ = phrase := Symbol.nonterminal.inj hsymbol
      have hs' := hs.built hbuilt
      obtain ⟨l, token, r, left, op, right, hplain, hoperation, hl, hop, hr⟩ := hsource.exists_operation hs'
      have harranged := Tree.Source.arranged hs' (hs.grouped rfl hgrouped) n hsource
      have harrangement := hoperation.arrangement_eq hsource.unaliased_symbol hop.arrangement_leaf
      obtain ⟨⟨o, _, ho, hleft, hright⟩, _⟩ := harrangement ▸ harranged.grouped
      obtain rfl := Symbol.terminal.inj (hoperation.operator.2.symm.trans ho)
      obtain _ | ⟨_, below⟩ := hs'
      have hmem : ∀ c ∈ [l, .leaf token, r], c ∈ children' := fun c hc =>
        List.mem_of_mem_filter (hplain ▸ hc)
      refine ⟨left, op, right, _, hoperation, fun inner mem symbol _ _ _ o' parts => ?_,
        fun inner mem symbol _ _ _ o' parts => ?_⟩
      · have hvalue := hl.unaliased_symbol.symm.trans (congrArg unaliased hoperation.operands.1)
        exact hleft o' (hl.operator_of_operation (below l (hmem l (by simp))) hvalue mem symbol parts)
      · have hvalue := hr.unaliased_symbol.symm.trans (congrArg unaliased hoperation.operands.2)
        exact hright o' (hr.operator_of_operation (below r (hmem r (by simp))) hvalue mem symbol parts)
  · intro n hn value
    obtain ⟨s, hs, hsource⟩ := hbuilt.exists_source_program _ n hn
    have hplain : s.isComment = false :=
      Tree.isComment_of_phrase (hsource.unaliased_symbol.symm.trans value)
    have harranged := Tree.Source.arranged (hs.built hbuilt) (hs.grouped hplain hgrouped) n hsource
    obtain ⟨read, hread⟩ :=
      exists_shows_of_mem_inside hshows haccepts.spans hn (spanned_inside_of_valid bytes h n hn).1
    refine ⟨n.arrangement.chain, read, harranged.grouped.group_chain.symm, harranged.operands,
      harranged.grouped.operators, harranged.tokens, hread, ?_⟩
    rw [harranged.tokens]
    exact (forall₂_filter hread.leaves).2

/-- A call with a chain of every operator, with a comment and parentheses in it. -/
def chainedCall : List UInt8 :=
  "f($a + $b / 2 / 3 - /* all */ ($c - 4) - 1 / 5)".toList.map fun c => c.toNat.toUInt8

theorem operators_group_chainedCall : ∃ root tokens tree, Program.ofBytes chainedCall = .valid root ∧
    Parser.Accepts (Glyph.ofBytes chainedCall) tokens tree ∧
    OperatorsGroup (Glyph.ofBytes chainedCall) tokens root := by
  have hvalid : (Program.ofBytes chainedCall).root?.isSome = true := by decide +kernel
  cases hprogram : Program.ofBytes chainedCall with
  | invalid furthest =>
    rw [hprogram] at hvalid
    cases hvalid
  | valid root =>
    obtain ⟨tokens, tree, -, haccepts, -, hgroup⟩ := operators_group _ _ hprogram
    exact ⟨root, tokens, tree, rfl, haccepts, hgroup⟩

end Numscript
