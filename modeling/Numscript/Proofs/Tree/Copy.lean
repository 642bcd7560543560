import Numscript.Proofs.Text.Place
import Numscript.Proofs.Tree.Leaves

/-!
# Copies of trees

A copy of a tree over another text has the same shape, and tokens of the same kinds that are spelled alike.
The places of the tokens may differ. Copies show as trees of the same form.
-/
namespace Numscript

/-- Two tokens of two texts are of one kind and spelled alike. -/
structure Token.Copies (text text' : List Glyph) (t t' : Token) : Prop where
  kind : t'.kind = t.kind
  word : Glyph.between t'.start.byte t'.stop.byte text' =
    Glyph.between t.start.byte t.stop.byte text

mutual

/-- Trees over two texts that have the same shape and are spelled alike. -/
inductive Copy (text text' : List Glyph) : Tree → Tree → Prop
  | leaf {t t' : Token} (h : t.Copies text text' t') : Copy text text' (.leaf t) (.leaf t')
  | node {phrase : Nonterminal} {layout : Layout} {children children' : List Tree}
      (below : CopyAll text text' children children') :
      Copy text text' (.node phrase layout children) (.node phrase layout children')

/-- Lists of trees that are copies one by one. -/
inductive CopyAll (text text' : List Glyph) : List Tree → List Tree → Prop
  | nil : CopyAll text text' [] []
  | cons {t t' : Tree} {rest rest' : List Tree} (head : Copy text text' t t')
      (tail : CopyAll text text' rest rest') : CopyAll text text' (t :: rest) (t' :: rest')

end

variable {text text' : List Glyph}

theorem copyAll_iff {trees trees' : List Tree} :
    CopyAll text text' trees trees' ↔ List.Forall₂ (Copy text text') trees trees' := by
  induction trees generalizing trees' with
  | nil =>
    constructor
    · intro h
      cases h
      exact .nil
    · intro h
      cases h
      exact .nil
  | cons t trees ih =>
    constructor
    · intro h
      cases h with
      | cons head tail => exact .cons head (ih.1 tail)
    · intro h
      cases h with
      | cons head tail => exact .cons head (ih.2 tail)

mutual

theorem copy_self (text : List Glyph) : (t : Tree) → Copy text text t t
  | .leaf _ => .leaf ⟨rfl, rfl⟩
  | .node _ _ children => .node (copyAll_self text children)

theorem copyAll_self (text : List Glyph) : (trees : List Tree) → CopyAll text text trees trees
  | [] => .nil
  | t :: rest => .cons (copy_self text t) (copyAll_self text rest)

end

theorem Copy.isComment_eq {t t' : Tree} (h : Copy text text' t t') : t'.isComment = t.isComment := by
  cases h with
  | leaf h => simp [Tree.isComment, h.kind]
  | node => rfl

theorem Copy.symbol_eq {t t' : Tree} (h : Copy text text' t t') : t'.symbol = t.symbol := by
  cases h with
  | leaf h => simp [Tree.symbol, h.kind]
  | node => rfl

theorem CopyAll.append {a b a' b' : List Tree} (h : CopyAll text text' a a')
    (h' : CopyAll text text' b b') : CopyAll text text' (a ++ b) (a' ++ b') := by
  rw [copyAll_iff] at h h' ⊢
  exact List.rel_append h h'

theorem CopyAll.structural_eq {a a' : List Tree} (h : CopyAll text text' a a') :
    Tree.structural a' = Tree.structural a := by
  rw [copyAll_iff] at h
  induction h with
  | nil => rfl
  | @cons t t' a a' head _ ih =>
    have hfilter := head.isComment_eq
    have hsymbol := head.symbol_eq
    rw [Tree.structural, Tree.structural] at ih ⊢
    rw [List.filter_cons, List.filter_cons, hfilter]
    split
    · rw [List.map_cons, List.map_cons, hsymbol, ih]
    · exact ih

theorem CopyAll.exists_append {a b' c' : List Tree} (h : CopyAll text text' a (b' ++ c')) :
    ∃ b c, a = b ++ c ∧ CopyAll text text' b b' ∧ CopyAll text text' c c' := by
  rw [copyAll_iff] at h
  refine ⟨a.take b'.length, a.drop b'.length, (List.take_append_drop ..).symm, ?_, ?_⟩
  · exact copyAll_iff.2 (List.forall₂_take_append _ _ _ h)
  · exact copyAll_iff.2 (List.forall₂_drop_append _ _ _ h)

theorem CopyAll.isComment {a a' : List Tree} (h : CopyAll text text' a a')
    (ha : ∀ t ∈ a', t.isComment = true) : ∀ t ∈ a, t.isComment = true := by
  rw [copyAll_iff] at h
  induction h with
  | nil => exact ha
  | cons head _ ih =>
    rw [List.forall_mem_cons] at ha ⊢
    exact ⟨head.isComment_eq.symm.trans ha.1, ih ha.2⟩

theorem Copy.exists_leaf {t : Tree} {token' : Token} (h : Copy text text' t (.leaf token')) :
    ∃ token, t = .leaf token ∧ token.kind = token'.kind := by
  cases h with
  | leaf h => exact ⟨_, rfl, h.kind.symm⟩

theorem Copy.exists_node {t : Tree} {phrase : Nonterminal} {layout : Layout} {children' : List Tree}
    (h : Copy text text' t (.node phrase layout children')) :
    ∃ children, t = .node phrase layout children ∧ CopyAll text text' children children' := by
  cases h with
  | node below => exact ⟨_, rfl, below⟩

theorem CopyAll.exists_cons {a : List Tree} {t' : Tree} {rest' : List Tree}
    (h : CopyAll text text' a (t' :: rest')) :
    ∃ t rest, a = t :: rest ∧ Copy text text' t t' ∧ CopyAll text text' rest rest' := by
  cases h with
  | cons head tail => exact ⟨_, _, rfl, head, tail⟩

theorem CopyAll.eq_nil {a : List Tree} (h : CopyAll text text' a []) : a = [] := by
  cases h
  rfl

/-- A tree whose copy is a list of a single clause that takes what remains. -/
theorem Copy.exists_clauses {t : Tree} {word' : Token} {between' : List Tree} {target' : Tree}
    (h : Copy text text' t (Braces.clauses word' between' target')) :
    ∃ word between target, t = Braces.clauses word between target ∧ word.kind = word'.kind ∧
      CopyAll text text' between between' := by
  obtain ⟨_, rfl, hchildren⟩ := h.exists_node
  obtain ⟨_, _, rfl, hclause, hnil⟩ := hchildren.exists_cons
  obtain rfl := hnil.eq_nil
  obtain ⟨_, rfl, hparts⟩ := hclause.exists_node
  rw [List.cons_append] at hparts
  obtain ⟨_, _, rfl, hshare, hparts⟩ := hparts.exists_cons
  obtain ⟨between, _, rfl, hbetween, hlast⟩ := hparts.exists_append
  obtain ⟨target, _, rfl, _, hnil⟩ := hlast.exists_cons
  obtain rfl := hnil.eq_nil
  obtain ⟨_, rfl, hallotment⟩ := hshare.exists_node
  obtain ⟨_, _, rfl, hremaining, hnil⟩ := hallotment.exists_cons
  obtain rfl := hnil.eq_nil
  obtain ⟨_, rfl, hleaves⟩ := hremaining.exists_node
  obtain ⟨_, _, rfl, hleaf, hnil⟩ := hleaves.exists_cons
  obtain rfl := hnil.eq_nil
  obtain ⟨word, rfl, hword⟩ := hleaf.exists_leaf
  exact ⟨word, between, target, rfl, hword, hbetween⟩

theorem Copy.lone {t t' : Tree} (h : Copy text text' t t') (hlone : t'.Lone) : t.Lone := by
  induction hlone generalizing t with
  | here b target' =>
    obtain ⟨_, rfl, hchildren⟩ := h.exists_node
    obtain ⟨_, _, rfl, hfront, hlast⟩ := hchildren.exists_append
    obtain ⟨_, _, rfl, hclosing, hnil⟩ := hlast.exists_cons
    obtain ⟨_, _, rfl, hopening, hinner⟩ := hfront.exists_cons
    obtain ⟨opening, rfl, hopens⟩ := hopening.exists_leaf
    obtain ⟨before, _, rfl, hbefore, htail⟩ := hinner.exists_append
    obtain ⟨_, behind, rfl, hclauses, hbehind⟩ := htail.exists_cons
    obtain ⟨word, between, target, rfl, hword, hbetween⟩ := hclauses.exists_clauses
    obtain rfl := hnil.eq_nil
    obtain ⟨closing, rfl, hcloses⟩ := hclosing.exists_leaf
    exact .here ⟨opening, before, word, between, behind, closing,
      hopens.trans b.opens, hword.trans b.remains, hcloses.trans b.closes,
      ((hbefore.append hbetween).append hbehind).isComment b.comments⟩ target
  | @inside phrase layout children' c' mem _ ih =>
    obtain ⟨children, rfl, hchildren⟩ := h.exists_node
    obtain ⟨before', after', rfl⟩ := List.append_of_mem mem
    obtain ⟨before, _, rfl, _, hrest⟩ := hchildren.exists_append
    obtain ⟨c, after, rfl, hc, _⟩ := hrest.exists_cons
    exact .inside (by simp) (ih hc)

/-- The form of a node is told by the forms of its children, as without any of them it takes no room. -/
theorem Node.form_of_forms {source source' : List Glyph} {label label' : Label}
    {children children' : List Node} (symbol : label'.symbol = label.symbol)
    (field : label'.field = label.field)
    (h : Node.forms source' children' = Node.forms source children)
    (empty : children = [] → label.start = label.stop)
    (empty' : children' = [] → label'.start = label'.stop) :
    (Node.mk label' children').form source' = (Node.mk label children).form source := by
  have hlength : children'.length = children.length := by
    simpa [forms_eq_map] using congrArg List.length h
  rw [Node.form, Node.form, h, symbol, field]
  cases children with
  | nil =>
    obtain rfl := List.length_eq_zero_iff.1 hlength
    rw [empty rfl, empty' rfl]
    simp [Glyph.between_self]
  | cons n children =>
    cases children' with
    | nil => cases hlength
    | cons n' children' => rfl

theorem Node.form_spanning {source source' : List Glyph} {children children' : List Node}
    (symbol : Symbol) (field : Option Field) (place place' : Point)
    (h : Node.forms source' children' = Node.forms source children) :
    (Node.spanning symbol field place' children').form source' =
      (Node.spanning symbol field place children).form source := by
  refine Node.form_of_forms rfl rfl h ?_ ?_ <;>
    · rintro rfl
      rfl

namespace Tree

theorem nodes_leaf (field : Option Field) (name : Option Alias) (token : Token) :
    (leaf token).nodes field name = [.mk ⟨(name.map Symbol.alias).getD (.terminal token.kind), field,
      token.kind.isComment, token.start, token.stop⟩ []] := by
  rw [nodes]

end Tree

theorem forms_append (source : List Glyph) (a b : List Node) :
    Node.forms source (a ++ b) = Node.forms source a ++ Node.forms source b := by
  simp [Node.forms_eq_map]

mutual

/-- Copies show as trees of the same form. -/
theorem Copy.forms_nodes {t t' : Tree} (field : Option Field) (name : Option Alias) :
    Copy text text' t t' →
      Node.forms text' (t'.nodes field name) = Node.forms text (t.nodes field name)
  | .leaf h => by
    rw [Tree.nodes_leaf, Tree.nodes_leaf, h.kind]
    simp [Node.forms, Node.form, h.word]
  | @Copy.node _ _ phrase layout children children' below => by
    have hinner := below.forms_nodesFrom layout 0
    rw [Tree.nodes, Tree.nodes]
    by_cases hrepetition : phrase.isRepetition = true
    · simpa [hrepetition] using hinner
    · simp only [hrepetition, Bool.false_eq_true, if_false, Node.forms, List.cons.injEq, and_true]
      exact Node.form_spanning _ field .origin .origin hinner

theorem CopyAll.forms_nodesFrom {trees trees' : List Tree} (layout : Layout) (place : Nat) :
    CopyAll text text' trees trees' → Node.forms text' (Tree.nodesFrom layout place trees') =
      Node.forms text (Tree.nodesFrom layout place trees)
  | .nil => by
    rw [Tree.nodesFrom]
    rfl
  | .cons head tail => by
    rw [Tree.nodesFrom, Tree.nodesFrom, head.isComment_eq]
    split
    · rw [forms_append, forms_append, head.forms_nodes, tail.forms_nodesFrom]
    · rw [forms_append, forms_append, head.forms_nodes, tail.forms_nodesFrom]

end

theorem Copy.form_program {t t' : Tree} (h : Copy text text' t t') (stop stop' : Point) :
    (t'.program stop').form text' = (t.program stop).form text := by
  cases h with
  | leaf h =>
    rw [Tree.program, Tree.program, h.kind]
    exact Node.form_spanning _ none stop stop' rfl
  | node below =>
    rw [Tree.program, Tree.program]
    refine Node.form_of_forms rfl rfl (below.forms_nodesFrom _ 0) ?_ ?_ <;>
      · intro hnil
        simp [hnil]

namespace Node

/-- Whether each of some nodes, and of those below them, is a comment. -/
def extras (nodes : List Node) : List Bool := (insideAll nodes).map (·.label.extra)

theorem extras_append (a b : List Node) : extras (a ++ b) = extras a ++ extras b := by
  simp [extras, insideAll_eq]

theorem extras_singleton (n : Node) : extras [n] = n.label.extra :: extras n.children := by
  cases n with
  | mk label children => simp [extras, insideAll, inside, Node.label, Node.children]

end Node

mutual

/-- Copies show comments in the same places. -/
theorem Copy.extras_nodes {t t' : Tree} (field : Option Field) (name : Option Alias) :
    Copy text text' t t' → Node.extras (t'.nodes field name) = Node.extras (t.nodes field name)
  | .leaf h => by
    rw [Tree.nodes_leaf, Tree.nodes_leaf, h.kind]
    rfl
  | @Copy.node _ _ phrase layout children children' below => by
    have hinner := below.extras_nodesFrom layout 0
    rw [Tree.nodes, Tree.nodes]
    by_cases hrepetition : phrase.isRepetition = true
    · simpa [hrepetition] using hinner
    · simp only [hrepetition, Bool.false_eq_true, if_false, Node.extras_singleton]
      exact congrArg (false :: ·) hinner

theorem CopyAll.extras_nodesFrom {trees trees' : List Tree} (layout : Layout) (place : Nat) :
    CopyAll text text' trees trees' → Node.extras (Tree.nodesFrom layout place trees') =
      Node.extras (Tree.nodesFrom layout place trees)
  | .nil => by
    rw [Tree.nodesFrom]
  | .cons head tail => by
    rw [Tree.nodesFrom, Tree.nodesFrom, head.isComment_eq]
    split
    · rw [Node.extras_append, Node.extras_append, head.extras_nodes, tail.extras_nodesFrom]
    · rw [Node.extras_append, Node.extras_append, head.extras_nodes, tail.extras_nodesFrom]

end

theorem Copy.extras_program {t t' : Tree} (h : Copy text text' t t') (stop stop' : Point) :
    Node.extras [t'.program stop'] = Node.extras [t.program stop] := by
  cases h with
  | leaf h => rfl
  | node below =>
    rw [Tree.program, Tree.program, Node.extras_singleton, Node.extras_singleton]
    exact congrArg (false :: ·) (below.extras_nodesFrom _ 0)

mutual

/-- Copies have copies of the same tokens. -/
theorem Copy.tokens {t t' : Tree} :
    Copy text text' t t' → List.Forall₂ (Token.Copies text text') t.tokens t'.tokens
  | .leaf h => .cons h .nil
  | .node below => by
    rw [Tree.tokens, Tree.tokens]
    exact below.tokens

theorem CopyAll.tokens {trees trees' : List Tree} : CopyAll text text' trees trees' →
    List.Forall₂ (Token.Copies text text') (Tree.tokensOfAll trees) (Tree.tokensOfAll trees')
  | .nil => .nil
  | .cons head tail => List.rel_append head.tokens tail.tokens

end

end Numscript
