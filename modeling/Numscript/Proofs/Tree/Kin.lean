import Numscript.Tree.Tree

/-!
# Kin trees

A destination in braces with a single clause, which takes what remains, can be read in two ways: as a
destination filled in order without any clauses before the last one, or as an allotment of one clause.
Trees are kin when they have the same shape everywhere but for such destinations, which may be read in
the one way here and in the other way there. Kin trees have the same tokens.
-/
namespace Numscript

namespace Tree

mutual

/-- The tokens of a tree in order, comments included. -/
def tokens : Tree → List Token
  | .leaf token => [token]
  | .node _ _ children => tokensOfAll children

/-- The tokens of a list of trees in order. -/
def tokensOfAll : List Tree → List Token
  | [] => []
  | t :: rest => t.tokens ++ tokensOfAll rest

end

theorem tokensOfAll_eq (trees : List Tree) : tokensOfAll trees = trees.flatMap tokens := by
  induction trees with
  | nil => rfl
  | cons t trees ih => rw [tokensOfAll, ih, List.flatMap_cons]

theorem tokens_node (phrase : Nonterminal) (layout : Layout) (children : List Tree) :
    (node phrase layout children).tokens = children.flatMap tokens := by
  rw [tokens, tokensOfAll_eq]

end Tree

/-- The tokens of a destination in braces with a single clause, and the comments between them. -/
structure Braces where
  opening : Token
  before : List Tree
  word : Token
  between : List Tree
  behind : List Tree
  closing : Token
  opens : opening.kind = .lbrace
  remains : word.kind = .kwRemaining
  closes : closing.kind = .rbrace
  comments : ∀ t ∈ before ++ between ++ behind, t.isComment = true

namespace Braces

/-- The share of a clause that takes what remains. -/
def share (word : Token) : Tree :=
  .node .allotment .plain [.node .remainingAllotment .plain [.leaf word]]

/-- The single clause, as a list of clauses. -/
def clauses (word : Token) (between : List Tree) (target : Tree) : Tree :=
  .node .destClauses .plain [.node .allotmentClauseDest .plain (share word :: between ++ [target])]

/-- The destination as one that is filled in order. -/
def inOrder (b : Braces) (target : Tree) : Tree :=
  .node .destInorder .plain (.leaf b.opening :: b.before ++ .leaf b.word :: b.between ++
    target :: b.behind ++ [.leaf b.closing])

/-- The destination as an allotment of one clause. -/
def allotment (b : Braces) (target : Tree) : Tree :=
  .node .destAllotment .plain (.leaf b.opening :: b.before ++
    clauses b.word b.between target :: b.behind ++ [.leaf b.closing])

theorem tokens_allotment (b : Braces) {s t : Tree} (h : s.tokens = t.tokens) :
    (b.allotment s).tokens = (b.inOrder t).tokens := by
  simp [allotment, inOrder, clauses, share, Tree.tokens, Tree.tokensOfAll_eq, h]

end Braces

mutual

/-- Trees that differ only in how destinations with a single remaining clause are read. -/
inductive Kin : Tree → Tree → Prop
  | leaf (token : Token) : Kin (.leaf token) (.leaf token)
  | node {phrase : Nonterminal} {layout : Layout} {children children' : List Tree}
      (below : KinAll children children') :
      Kin (.node phrase layout children) (.node phrase layout children')
  /-- Filled in order here, and an allotment there. -/
  | turned (b : Braces) {target target' : Tree} (h : Kin target target') :
      Kin (b.inOrder target) (b.allotment target')
  /-- An allotment here, and filled in order there. -/
  | returned (b : Braces) {target target' : Tree} (h : Kin target target') :
      Kin (b.allotment target) (b.inOrder target')

/-- Lists of trees that are kin one by one. -/
inductive KinAll : List Tree → List Tree → Prop
  | nil : KinAll [] []
  | cons {t t' : Tree} {rest rest' : List Tree} (head : Kin t t') (tail : KinAll rest rest') :
      KinAll (t :: rest) (t' :: rest')

end

mutual

theorem Kin.tokens_eq {s t : Tree} : Kin s t → s.tokens = t.tokens
  | .leaf _ => rfl
  | .node below => by
    rw [Tree.tokens, Tree.tokens]
    exact below.tokens_eq
  | .turned b h => (b.tokens_allotment h.tokens_eq.symm).symm
  | .returned b h => b.tokens_allotment h.tokens_eq

theorem KinAll.tokens_eq {s t : List Tree} : KinAll s t → Tree.tokensOfAll s = Tree.tokensOfAll t
  | .nil => rfl
  | .cons head tail => by
    rw [Tree.tokensOfAll, Tree.tokensOfAll, head.tokens_eq, tail.tokens_eq]

end

mutual

theorem Kin.symm {s t : Tree} : Kin s t → Kin t s
  | .leaf token => .leaf token
  | .node below => .node below.symm
  | .turned b h => .returned b h.symm
  | .returned b h => .turned b h.symm

theorem KinAll.symm {s t : List Tree} : KinAll s t → KinAll t s
  | .nil => .nil
  | .cons head tail => .cons head.symm tail.symm

end

mutual

theorem Kin.refl : (t : Tree) → Kin t t
  | .leaf token => .leaf token
  | .node _ _ children => .node (KinAll.refl children)

theorem KinAll.refl : (trees : List Tree) → KinAll trees trees
  | [] => .nil
  | t :: rest => .cons (Kin.refl t) (KinAll.refl rest)

end

theorem KinAll.append {s s' t t' : List Tree} (h : KinAll s s') (h' : KinAll t t') :
    KinAll (s ++ t) (s' ++ t') := by
  induction s generalizing s' with
  | nil =>
    cases h
    exact h'
  | cons x s ih =>
    cases h with
    | cons head tail => exact .cons head (ih tail)

/-- A tree that holds an allotment of a single remaining clause. -/
inductive Tree.Lone : Tree → Prop where
  | here (b : Braces) (target : Tree) : Lone (b.allotment target)
  | inside {phrase : Nonterminal} {layout : Layout} {children : List Tree} {c : Tree}
      (mem : c ∈ children) (h : Lone c) : Lone (.node phrase layout children)

mutual

/-- Kin trees that hold no such allotment are the same. -/
theorem Kin.eq_of_not_lone {s t : Tree} : Kin s t → ¬s.Lone → ¬t.Lone → s = t
  | .leaf _, _, _ => rfl
  | .node below, hs, ht => by
    rw [below.eq_of_not_lone (fun c hc h => hs (.inside hc h)) fun c hc h => ht (.inside hc h)]
  | .turned b _, _, ht => absurd (.here b _) ht
  | .returned b _, hs, _ => absurd (.here b _) hs

theorem KinAll.eq_of_not_lone {s t : List Tree} : KinAll s t → (∀ c ∈ s, ¬c.Lone) →
    (∀ c ∈ t, ¬c.Lone) → s = t
  | .nil, _, _ => rfl
  | .cons head tail, hs, ht => by
    rw [List.forall_mem_cons] at hs ht
    rw [head.eq_of_not_lone hs.1 ht.1, tail.eq_of_not_lone hs.2 ht.2]

end

end Numscript
