import Numscript.Proofs.Automaton.Follow
import Numscript.Proofs.Parser.Viable
import Numscript.Proofs.Tree.Kin

/-!
# Proper trees

A tree without comments whose phrases are productions of the grammar, each with the roles that the
production gives to its children, and whose operators group from the left, quotients before sums. These
are the trees that the machine finds, whatever stands before and behind them.
-/
namespace Numscript.Tree

open Grammar (Item productions tightness)
open Automaton (Reduction rolesOf operators takes)

/-- The operator of an operation, or of a value that is one. -/
def operator? : Tree → Option Terminal
  | .node .infixExpr _ [_, .leaf op, _] => some op.kind
  | .node .valueExpr _ [.node .infixExpr _ [_, .leaf op, _]] => some op.kind
  | _ => none

/-- The operands of an operation need no parentheses. -/
def GroupsLeft : List Tree → Prop
  | [l, .leaf op, r] => (∀ o ∈ l.operator?, tightness op.kind ≤ tightness o) ∧
      ∀ o ∈ r.operator?, tightness op.kind < tightness o
  | _ => True

/-- A tree without comments that the grammar and the conventions allow. -/
inductive Proper : Tree → Prop
  | leaf {token : Token} (plain : token.kind.isComment = false) : Proper (.leaf token)
  | node {n : Nonterminal} {p : List Item} {children : List Tree} (spelt : p ∈ productions n)
      (inhabited : p ≠ []) (symbols : children.map symbol = Reduction.children p)
      (groups : n = .infixExpr → GroupsLeft children) (below : ∀ c ∈ children, Proper c) :
      Proper (.node n (rolesOf p) children)

theorem Proper.isComment {t : Tree} (h : t.Proper) : t.isComment = false := by
  cases h with
  | leaf plain => exact plain
  | node => rfl

theorem head?_ne_slash {n : Nonterminal} {p : List Item} (hp : p ∈ productions n) :
    (Reduction.children p).head? ≠ some (.terminal .slash) := by
  have hall : ∀ p ∈ productions n, (Reduction.children p).head? ≠ some (.terminal .slash) := by
    cases n <;> decide +kernel
  exact hall p hp

theorem Proper.exists_token {t : Tree} (h : t.Proper) : ∃ token rest, t.tokens = token :: rest ∧
    token.kind.isComment = false ∧ (token.kind = .slash → t.symbol = .terminal .slash) := by
  induction h with
  | @leaf token plain => exact ⟨token, [], by rw [tokens], plain, fun hslash => congrArg _ hslash⟩
  | @node n p children spelt inhabited symbols _ _ ih =>
    cases children with
    | nil =>
      cases p with
      | nil => exact absurd rfl inhabited
      | cons i p => cases symbols
    | cons c children =>
      obtain ⟨token, rest, htokens, hplain, hslash⟩ := ih c List.mem_cons_self
      refine ⟨token, rest ++ tokensOfAll children, ?_, hplain, fun h => ?_⟩
      · rw [tokens, tokensOfAll, htokens, List.cons_append]
      · refine absurd ?_ (head?_ne_slash spelt)
        rw [← symbols, List.map_cons, List.head?_cons, hslash h]

/-- The productions of operations. -/
theorem exists_operator {p : List Item} (hp : p ∈ productions .infixExpr) : ∃ o ∈ operators,
    p = [⟨.nonterminal .valueExpr, some .left⟩, ⟨.terminal o, some .op⟩,
      ⟨.nonterminal .valueExpr, some .right⟩] := by
  have hall : ∀ p ∈ productions .infixExpr, ∃ o ∈ operators,
      p = [⟨.nonterminal .valueExpr, some .left⟩, ⟨.terminal o, some .op⟩,
        ⟨.nonterminal .valueExpr, some .right⟩] := by
    decide +kernel
  exact hall p hp

theorem exists_value {p : List Item} (hp : p ∈ productions .valueExpr) : ∃ n ∈ Nonterminal.all,
    p = [⟨.nonterminal n, none⟩] ∧ n ≠ .valueExpr := by
  have hall : ∀ p ∈ productions .valueExpr, ∃ n ∈ Nonterminal.all,
      p = [⟨.nonterminal n, none⟩] ∧ n ≠ .valueExpr := by
    decide +kernel
  exact hall p hp

theorem eq_leaf_of_symbol {t : Tree} {k : Terminal} (h : t.symbol = .terminal k) :
    ∃ token, t = .leaf token ∧ token.kind = k := by
  cases t with
  | leaf token => exact ⟨token, rfl, Symbol.terminal.inj h⟩
  | node => cases h

/-- The children of a proper operation. -/
theorem exists_operands {p : List Item} {children : List Tree} (hp : p ∈ productions .infixExpr)
    (symbols : children.map symbol = Reduction.children p) : ∃ l op r, op.kind ∈ operators ∧
      children = [l, .leaf op, r] ∧ l.symbol = .nonterminal .valueExpr ∧
      r.symbol = .nonterminal .valueExpr ∧ ⟨.terminal op.kind, some .op⟩ ∈ p := by
  obtain ⟨o, ho, rfl⟩ := exists_operator hp
  obtain ⟨l, rest, rfl, hl, hrest⟩ := List.map_eq_cons_iff.1 symbols
  obtain ⟨m, rest, rfl, hm, hrest⟩ := List.map_eq_cons_iff.1 hrest
  obtain ⟨r, rest, rfl, hr, hrest⟩ := List.map_eq_cons_iff.1 hrest
  obtain rfl := List.map_eq_nil_iff.1 hrest
  obtain ⟨op, rfl, rfl⟩ := eq_leaf_of_symbol hm
  exact ⟨l, op, r, ho, rfl, hl, hr, by simp⟩

theorem operator?_eq_none {t : Tree} (value : t.symbol ≠ .nonterminal .valueExpr)
    (operation : t.symbol ≠ .nonterminal .infixExpr) : t.operator? = none := by
  unfold operator?
  split
  · exact absurd rfl operation
  · exact absurd rfl value
  · rfl

theorem Proper.operator_mem {t : Tree} (h : t.Proper) : ∀ o ∈ t.operator?, o ∈ operators := by
  intro o ho
  have hoperation : ∀ {p : List Item} {l r : Tree} {op : Token}, p ∈ productions .infixExpr →
      [l, .leaf op, r].map symbol = Reduction.children p → op.kind ∈ operators := by
    intro p l r op hp symbols
    obtain ⟨_, op', _, hop, hchildren, _⟩ := exists_operands hp symbols
    simp only [List.cons.injEq, Tree.leaf.injEq] at hchildren
    exact hchildren.2.1 ▸ hop
  unfold operator? at ho
  split at ho
  · obtain rfl := Option.some.inj ho
    cases h with
    | node spelt _ symbols => exact hoperation spelt symbols
  · obtain rfl := Option.some.inj ho
    cases h with
    | node _ _ _ _ below =>
      have hinner := below _ List.mem_cons_self
      cases hinner with
      | node spelt _ symbols => exact hoperation spelt symbols
  · cases ho

/-- A tree can be begun in a state and completed before a token, as far as its operator is concerned. -/
structure Suits (t : Tree) (q : Nat) (before : Terminal) : Prop where
  begun : ∀ o ∈ t.operator?, takes q o = true
  divides : before = .slash → ∀ o ∈ t.operator?, o = .slash

theorem Suits.of_none {t : Tree} (h : t.operator? = none) (q : Nat) (before : Terminal) :
    t.Suits q before := by
  constructor <;> simp [h]

end Numscript.Tree
