import Numscript.Proofs.Parser.Walk
import Numscript.Proofs.Tree.Proper

/-!
# Completeness of the machine

Wherever a phrase can be begun, the machine reads the tokens of every proper tree of it and puts the tree
on the stack. The statement is turned around: what some branch makes of the tokens behind the tree, with
the tree on top of the stack, some branch makes of the tokens of the tree and those behind it, without the
tree. So no token is ever read ahead, and what may follow a phrase is told by what the branch does next.
-/
namespace Numscript.Parser

open Automaton (Reduction Follows leads? goto? reduction? goals reductionOf rolesOf operators takes
  behindRemaining follow)
open Grammar (Item productions tightness)

/-- What a branch makes of a stack when it reads some tokens one by one. -/
inductive Consumes : List Token → Stack → Ending → Prop where
  | last {token : Token} {s : Stack} {e : Ending} (settles : Settles token s e) :
      Consumes [token] s e
  | more {token : Token} {tokens : List Token} {s t : Stack} {e : Ending}
      (settles : Settles token s (.pushed t)) (rest : Consumes tokens t e) :
      Consumes (token :: tokens) s e

theorem Consumes.exists_settles {token : Token} {tokens : List Token} {s : Stack} {e : Ending}
    (h : Consumes (token :: tokens) s e) : ∃ e', Settles token s e' := by
  cases h with
  | last settles => exact ⟨_, settles⟩
  | more settles => exact ⟨_, settles⟩

/-- What is consumed is consumed as well where each token is followed by its partner on a related stack. -/
theorem Consumes.simulated {R : Stack → Stack → Prop} {C : Token → Token → Prop} {E : Ending → Ending → Prop}
    (step : ∀ token token' s s' e, R s s' → C token token' → Settles token s e →
      ∃ e', Settles token' s' e' ∧ E e e' ∧ ∀ t, e = .pushed t → ∃ t', e' = .pushed t' ∧ R t t')
    {tokens tokens' : List Token} {s s' : Stack} {e : Ending} (h : Consumes tokens s e) (related : R s s')
    (partners : List.Forall₂ C tokens tokens') : ∃ e', Consumes tokens' s' e' ∧ E e e' := by
  induction h generalizing s' tokens' with
  | last settles =>
    obtain _ | ⟨partner, hnil⟩ := partners
    cases hnil
    obtain ⟨e', hsettles, hends, _⟩ := step _ _ _ _ _ related partner settles
    exact ⟨e', .last hsettles, hends⟩
  | more settles _ ih =>
    obtain _ | ⟨partner, hrest⟩ := partners
    obtain ⟨_, hsettles, _, hpushed⟩ := step _ _ _ _ _ related partner settles
    obtain ⟨t', rfl, hrelated⟩ := hpushed _ rfl
    obtain ⟨e', hconsumes, hends⟩ := ih hrelated hrest
    exact ⟨e', .more hsettles hconsumes, hends⟩

/-- A phrase is completed before the first token. -/
theorem Consumes.reduce {token : Token} {tokens : List Token} {s kept : Stack} {r : Reduction}
    {e : Ending} (plain : token.kind.isComment = false) (asks : reduction? s.state token.kind = some r)
    (reduces : Reduces r s kept) (h : Consumes (token :: tokens) kept e) :
    Consumes (token :: tokens) s e := by
  cases h with
  | last settles => exact .last (.reduce plain asks reduces settles)
  | more settles rest => exact .more (.reduce plain asks reduces settles) rest

/-! ### What follows a phrase -/

theorem follow_destinationTo {q : Nat} {x : Symbol} (h : leads? q x = some behindRemaining) :
    follow q .destinationTo = Terminal.bits [.rbrace] := by
  have hall : Automaton.enteredBy (fun q _ n => n != behindRemaining ||
      follow q .destinationTo == Terminal.bits [.rbrace]) = true := by decide +kernel
  simpa using Automaton.of_enteredBy hall h

/-- Behind the last clause of a destination that is filled in order, nothing but that clause is completed
with several children. -/
theorem eq_destinationTo {n : Nonterminal} {next : Nat} {r : Reduction}
    (behind : goto? behindRemaining n = some next) (goal : ⟨r, r.arity⟩ ∈ goals next)
    (arity : r.arity ≠ 1) : r = ⟨.destinationTo, 2, .plain⟩ := by
  obtain ⟨place, hplace, _, _, hlater⟩ :=
    Automaton.goal_before (x := .nonterminal n) (leads?_nonterminal _ n ▸ behind) goal
  have hgoals : ∀ g ∈ goals behindRemaining, g = ⟨⟨.destinationTo, 2, .plain⟩, 1⟩ := by decide +kernel
  have hgoal := hgoals _ (hlater (by simp only at hplace; omega))
  exact (Automaton.Goal.mk.inj hgoal).1

/-- Below a phrase that was taken off the stack with one more child, that child was read. -/
theorem Viable.exists_leads {rest lower : Stack} {above children : List Tree} (h : Viable rest)
    (pop : rest.pop 1 above = some (children, lower)) : ∃ x, leads? lower.state x = some rest.state := by
  obtain ⟨taken, rfl, _, hcount⟩ := Stack.pop_eq_some pop
  have hwalk := h.walk
  rw [structural_of_taken] at hwalk
  obtain ⟨f, hf⟩ := List.length_eq_one_iff.1 hcount
  rw [Stack.plain, hf, List.map_cons, List.map_nil, List.reverse_singleton, Automaton.walk] at hwalk
  obtain ⟨next, hnext, hrest⟩ := Option.bind_eq_some_iff.1 hwalk
  obtain rfl := Option.some.inj hrest
  exact ⟨_, hnext⟩

/-- A reduction that takes several children off a phrase on top of a stack. -/
theorem Reduces.exists_below {r : Reduction} {n : Nonterminal} {layout : Layout} {next : Nat}
    {comments children : List Tree} {rest kept : Stack} (hc : ∀ t ∈ comments, t.isComment = true)
    (viable : Viable rest) (arity : r.arity = 2)
    (h : Reduces r (strew next comments ++ ⟨next, .node n layout children⟩ :: rest) kept) :
    ∃ (below : Stack) (behind : Nat) (inner : List Tree), goto? below.state r.phrase = some behind ∧
      (∃ x, leads? below.state x = some rest.state) ∧
      kept = strew behind comments ++ ⟨behind, .node r.phrase r.layout inner⟩ :: below := by
  have htop : ∀ f ∈ (⟨next, .node n layout children⟩ :: rest : Stack).head?,
      f.tree.isComment = false := by
    rintro f hf
    obtain rfl := Option.some.inj hf
    rfl
  obtain ⟨inner, below, behind, pop, leads, rfl⟩ := h.of_strew hc htop
  rw [arity, Stack.pop, if_neg (by simp [Tree.isComment])] at pop
  exact ⟨below, behind, inner, leads, viable.exists_leads pop, rfl⟩

/-- Before a token that is read next, a phrase on top of a stack is one that the token may follow. -/
theorem Settles.follows {token : Token} {s : Stack} {e : Ending} (h : Settles token s e)
    (plain : token.kind.isComment = false) {comments children : List Tree} {next : Nat}
    {n : Nonterminal} {layout : Layout} {rest : Stack} (hc : ∀ t ∈ comments, t.isComment = true)
    (hs : s = strew next comments ++ ⟨next, .node n layout children⟩ :: rest) (hv : Viable s) :
    Follows rest.state n token.kind := by
  induction h generalizing comments children next n layout rest with
  | pass comment => simp [plain] at comment
  | @shift s _ _ leads =>
    subst hs
    rw [state_strew_cons] at leads
    exact .shift (viable_behind hv) (Option.isSome_of_eq_some leads)
  | @reduce s kept r e _ asks reduces _ ih =>
    subst hs
    have hbehind := viable_behind hv
    have hkept := hv.of_reduces reduces
    rw [state_strew_cons] at asks
    by_cases harity : r.arity = 1
    · obtain ⟨behind, _, rfl⟩ := reduces.eq_of_single hc rfl harity
      exact .single hbehind asks harity (ih hc rfl hkept)
    · refine .several hbehind asks harity fun hrest => ?_
      rw [hrest] at hbehind
      obtain rfl := eq_destinationTo hbehind (Automaton.goal_of_reduction asks) harity
      obtain ⟨below, behind, inner, _, ⟨x, hx⟩, rfl⟩ :=
        reduces.exists_below hc hv.of_append.tail rfl
      have hfollows := (ih hc rfl hkept).testBit
      rw [hrest] at hx
      rw [follow_destinationTo hx, Terminal.testBit_bits] at hfollows
      exact List.mem_singleton.1 hfollows
  | @accept s _ _ _ _ final kind =>
    subst hs
    rw [state_strew_cons] at final
    exact kind ▸ .ends (final ▸ viable_behind hv)
where
  viable_behind {comments children : List Tree} {next : Nat} {n : Nonterminal} {layout : Layout}
      {rest : Stack} (hv : Viable (strew next comments ++ ⟨next, .node n layout children⟩ :: rest)) :
      goto? rest.state n = some next := by
    have h := hv.of_append
    cases h with
    | comment _ hc => cases hc
    | read _ _ leads => exact leads

/-! ### Reading the children of a phrase -/

/-- Trees laid on a stack one by one, each behind the state that its symbol leads to. -/
inductive Climbs (s : Stack) : List Tree → Stack → Prop where
  | nil : Climbs s [] s
  | snoc {trees : List Tree} {t : Stack} {tree : Tree} {next : Nat} (below : Climbs s trees t)
      (plain : tree.isComment = false) (leads : leads? t.state tree.symbol = some next) :
      Climbs s (trees ++ [tree]) (⟨next, tree⟩ :: t)

theorem Climbs.viable {s t : Stack} {trees : List Tree} (h : Climbs s trees t) (hs : Viable s) :
    Viable t := by
  induction h with
  | nil => exact hs
  | snoc _ plain leads ih => exact .read ih plain leads

theorem Climbs.exists_upper {s t : Stack} {trees : List Tree} (h : Climbs s trees t) :
    ∃ upper : Stack, t = upper ++ s ∧ upper.map (·.tree) = trees.reverse ∧
      ∀ f ∈ upper, f.tree.isComment = false := by
  induction h with
  | nil => exact ⟨[], rfl, rfl, nofun⟩
  | @snoc trees t tree next _ plain _ ih =>
    obtain ⟨upper, rfl, htrees, hplain⟩ := ih
    refine ⟨⟨next, tree⟩ :: upper, rfl, by simp [htrees], ?_⟩
    rw [List.forall_mem_cons]
    exact ⟨plain, hplain⟩

theorem Climbs.state {s t : Stack} {trees : List Tree} (h : Climbs s trees t) :
    Automaton.walk s.state (trees.map Tree.symbol) = some t.state := by
  induction h with
  | nil => rfl
  | snoc _ _ leads ih => rw [List.map_append, List.map_singleton, Automaton.walk_snoc ih, leads]; rfl

/-- A phrase whose children lie on top of a stack is put in their place. -/
theorem Climbs.reduces {s t : Stack} {trees : List Tree} (h : Climbs s trees t) (hs : Viable s)
    {k : Terminal} {r : Reduction} (asks : reduction? t.state k = some r)
    (arity : r.arity = trees.length) (inhabited : trees ≠ []) : ∃ next,
      goto? s.state r.phrase = some next ∧ Reduces r t (⟨next, .node r.phrase r.layout trees⟩ :: s) := by
  obtain ⟨kept, _, hreduces⟩ := (h.viable hs).reduce asks
  obtain ⟨upper, rfl, htrees, hplain⟩ := h.exists_upper
  obtain ⟨mid, last, rfl⟩ : ∃ (mid : Stack) (last : Frame), upper = mid ++ [last] := by
    refine ⟨_, _, (List.dropLast_concat_getLast (l := upper) ?_).symm⟩
    rintro rfl
    exact inhabited (by simpa using htrees.symm)
  have hmid : ∀ f ∈ mid.head?, f.tree.isComment = false := fun f hf =>
    hplain f (List.mem_append_left _ (List.mem_of_head? hf))
  have hlast : last.tree.isComment = false := hplain last (by simp)
  have hcount : mid.plain.length + 1 = r.arity := by
    have hlength := congrArg List.length htrees
    have hall : mid.plain = mid := List.filter_eq_self.2 fun f hf => by
      simp [hplain f (List.mem_append_left _ hf)]
    simp only [List.length_map, List.length_append, List.length_singleton, List.length_reverse] at hlength
    rw [hall, arity, hlength]
  have hnone : ∀ t ∈ ([] : List Tree), t.isComment = true := nofun
  have hreduces' : Reduces r (strew 0 [] ++ (mid ++ last :: s)) kept := by simpa [strew] using hreduces
  obtain ⟨next, hnext, rfl⟩ := hreduces'.eq_of_taken hnone hmid hlast hcount
  have hchildren : last.tree :: (mid.map (·.tree)).reverse = trees := by
    have hreverse := congrArg List.reverse htrees
    rwa [List.reverse_reverse, List.map_append, List.reverse_append] at hreverse
  refine ⟨next, hnext, ?_⟩
  rw [hchildren] at hreduces
  exact hreduces

theorem Climbs.cons {s t : Stack} {trees : List Tree} {tree : Tree} {next : Nat}
    (plain : tree.isComment = false) (leads : leads? s.state tree.symbol = some next)
    (h : Climbs (⟨next, tree⟩ :: s) trees t) : Climbs s (tree :: trees) t := by
  induction h with
  | nil => exact @Climbs.snoc s [] s tree next .nil plain leads
  | snoc _ plain leads ih => exact .snoc ih plain leads

/-- The first token of some proper trees and of what stands behind them. -/
theorem first_token {trees : List Tree} {a b : Token} {more more' : List Token}
    (h : Tree.tokensOfAll trees ++ a :: more = b :: more') (proper : ∀ t ∈ trees, t.Proper) :
    trees = [] ∧ b = a ∨ ∃ t rest, trees = t :: rest ∧ b.kind.isComment = false ∧
      (b.kind = .slash → t.symbol = .terminal .slash) := by
  cases trees with
  | nil => exact .inl ⟨rfl, (List.cons.inj h).1.symm⟩
  | cons t trees =>
    obtain ⟨token, rest, htokens, hplain, hslash⟩ := (proper t List.mem_cons_self).exists_token
    rw [Tree.tokensOfAll, htokens] at h
    obtain rfl := (List.cons.inj h).1
    exact .inr ⟨t, trees, rfl, hplain, hslash⟩

/-- Children that can be read one by one are read, if each of them is. -/
theorem Consumes.of_children {children : List Tree} {s : Stack} {last : Nat} {a : Token}
    {more : List Token} {e : Ending} (hv : Viable s) (plain : a.kind.isComment = false)
    (proper : ∀ c ∈ children, c.Proper)
    (hw : Automaton.walk s.state (children.map Tree.symbol) = some last)
    (suits : ∀ u c v, children = u ++ c :: v → ∀ q,
      Automaton.walk s.state (u.map Tree.symbol) = some q → ∀ b more',
        Tree.tokensOfAll v ++ a :: more = b :: more' → c.Suits q b.kind)
    (each : ∀ c ∈ children, ∀ (s : Stack) (next : Nat) (a : Token) (more : List Token), Viable s →
      leads? s.state c.symbol = some next → c.Suits s.state a.kind → a.kind.isComment = false →
        Consumes (a :: more) (⟨next, c⟩ :: s) e → Consumes (c.tokens ++ a :: more) s e)
    (behind : ∀ t, Climbs s children t → Consumes (a :: more) t e) :
    Consumes (Tree.tokensOfAll children ++ a :: more) s e := by
  induction children generalizing s with
  | nil => exact behind s .nil
  | cons c children ih =>
    rw [List.forall_mem_cons] at proper each
    obtain ⟨next, hnext, hrest⟩ := Option.bind_eq_some_iff.1 hw
    have hviable : Viable (⟨next, c⟩ :: s) := .read hv proper.1.isComment hnext
    have hconsumes := ih hviable proper.2 hrest
      (fun u d v split q hq => suits (c :: u) d v (by rw [split, List.cons_append]) q
        (by rw [List.map_cons, Automaton.walk, hnext]; exact hq)) each.2
      (fun t climbs => behind t (.cons proper.1.isComment hnext climbs))
    obtain ⟨b, more', hsplit⟩ : ∃ b more', Tree.tokensOfAll children ++ a :: more = b :: more' :=
      List.exists_cons_of_ne_nil (by simp)
    have hplain : b.kind.isComment = false := by
      rcases first_token hsplit proper.2 with ⟨_, rfl⟩ | ⟨_, _, _, hb, _⟩
      · exact plain
      · exact hb
    rw [Tree.tokensOfAll, List.append_assoc, hsplit]
    rw [hsplit] at hconsumes
    exact each.1 s next b more' hv hnext (suits [] c children rfl _ rfl b more' hsplit) hplain hconsumes

/-! ### Operators -/

theorem not_isSum {n : Nonterminal} {p : List Item} (hp : p ∈ productions n)
    (outer : n ≠ .infixExpr) : Automaton.isSum p = false := by
  have hall : n ≠ .infixExpr → ∀ p ∈ productions n, Automaton.isSum p = false := by
    cases n <;> decide +kernel
  exact hall outer p hp

/-- A value has the operator of the operation that it is. -/
theorem suits_value {p : List Item} {c : Tree} {q : Nat} {before : Terminal} {layout : Layout}
    (spelt : p ∈ productions .valueExpr) (symbols : [c].map Tree.symbol = Reduction.children p)
    (proper : c.Proper) (h : (Tree.node .valueExpr layout [c]).Suits q before) : c.Suits q before := by
  obtain ⟨n, _, rfl, hn⟩ := Tree.exists_value spelt
  have hsymbol : c.symbol = .nonterminal n := List.cons.inj symbols |>.1
  by_cases hinfixed : n = .infixExpr
  · subst hinfixed
    cases proper with
    | leaf => cases hsymbol
    | node spelt' _ symbols' =>
      cases hsymbol
      obtain ⟨l, op, r, _, rfl, _⟩ := Tree.exists_operands spelt' symbols'
      exact ⟨h.begun, h.divides⟩
  · refine .of_none (Tree.operator?_eq_none ?_ ?_) q before
    · rw [hsymbol]
      exact fun heq => hn (Symbol.nonterminal.inj heq)
    · rw [hsymbol]
      exact fun heq => hinfixed (Symbol.nonterminal.inj heq)

theorem tightness_slash {o : Terminal} (ho : o ∈ operators) (h : tightness .slash ≤ tightness o) :
    o = .slash := by
  have hall : ∀ o ∈ operators, tightness .slash ≤ tightness o → o = .slash := by decide
  exact hall o ho h

/-- The operands of an operation suit the states before them, and what follows them. -/
theorem suits_operand {l r : Tree} {op a b : Token} {u v : List Tree} {c : Tree} {q q' : Nat}
    {more more' : List Token} {layout : Layout} (hq : q < Automaton.stateCount)
    (hop : op.kind ∈ operators) (hl : l.symbol = .nonterminal .valueExpr)
    (proper : ∀ c ∈ [l, .leaf op, r], c.Proper)
    (groups : Tree.GroupsLeft [l, .leaf op, r])
    (h : (Tree.node .infixExpr layout [l, .leaf op, r]).Suits q a.kind)
    (split : [l, .leaf op, r] = u ++ c :: v) (hu : Automaton.walk q (u.map Tree.symbol) = some q')
    (first : Tree.tokensOfAll v ++ a :: more = b :: more') : c.Suits q' b.kind := by
  have htakes : takes q op.kind = true := h.begun _ rfl
  have hoperand := Automaton.takes_operand q (List.mem_range.2 hq) _ hop htakes
  obtain ⟨hleft, hright⟩ := groups
  rcases u with _ | ⟨x, _ | ⟨y, _ | ⟨z, u⟩⟩⟩
  · obtain ⟨rfl, rfl⟩ := List.cons.inj split
    obtain rfl := Option.some.inj hu
    have hmem := (proper l (by simp)).operator_mem
    refine ⟨fun o ho => (hoperand o (hmem o ho)).1 (hleft o ho), fun hslash o ho => ?_⟩
    obtain rfl : op = b := (List.cons.inj first).1
    exact tightness_slash (hmem o ho) (hslash ▸ hleft o ho)
  · obtain ⟨rfl, hrest⟩ := List.cons.inj split
    obtain ⟨rfl, rfl⟩ := List.cons.inj hrest
    exact .of_none rfl q' b.kind
  · obtain ⟨rfl, hrest⟩ := List.cons.inj split
    obtain ⟨rfl, hlast⟩ := List.cons.inj hrest
    obtain ⟨rfl, rfl⟩ := List.cons.inj hlast
    have hmem := (proper r (by simp)).operator_mem
    obtain rfl : a = b := (List.cons.inj first).1
    refine ⟨fun o ho => ?_, fun hslash o ho => ?_⟩
    · rw [List.map_cons, List.map_cons, List.map_nil, hl] at hu
      exact (hoperand o (hmem o ho)).2 (hright o ho) q' hu
    · have hover : op.kind = .slash := h.divides hslash _ rfl
      exact tightness_slash (hmem o ho) (Nat.le_of_lt (hover ▸ hright o ho))
  · simp at split

/-- Outside of operations, all children suit the states before them, and what follows them. -/
theorem suits_enclosed {n : Nonterminal} {p : List Item} {children : List Tree} {a b : Token}
    {u v : List Tree} {c : Tree} {q q' next : Nat} {more more' : List Token}
    (behind : goto? q n = some next) (spelt : p ∈ productions n)
    (outer : Automaton.ofOperations n = false)
    (symbols : children.map Tree.symbol = Reduction.children p) (proper : ∀ c ∈ children, c.Proper)
    (follows : Follows q n a.kind) (split : children = u ++ c :: v)
    (hu : Automaton.walk q (u.map Tree.symbol) = some q')
    (first : Tree.tokensOfAll v ++ a :: more = b :: more') : c.Suits q' b.kind := by
  subst split
  rw [List.map_append, List.map_cons] at symbols
  obtain ⟨hinfixed, _, hvalue⟩ := Automaton.takes_of_encloses behind spelt outer symbols.symm hu
  by_cases hsymbol : c.symbol = .nonterminal .valueExpr
  · have hmem := (proper c (by simp)).operator_mem
    refine ⟨fun o ho => hvalue hsymbol o (hmem o ho), fun hslash => ?_⟩
    rcases first_token first fun t ht => proper t (by simp [ht]) with ⟨rfl, rfl⟩ | ⟨d, w, rfl, _, hd⟩
    · rw [hsymbol, List.map_nil] at symbols
      rw [hslash] at follows
      exact absurd follows (Automaton.not_follows_slash behind spelt outer symbols.symm)
    · -- the slash would be a child of its own
      have hcut : Reduction.children p =
          (u.map Tree.symbol ++ [c.symbol]) ++ d.symbol :: w.map Tree.symbol := by
        rw [← symbols]
        simp
      obtain ⟨r, hr⟩ : ∃ r, leads? q' c.symbol = some r := by
        obtain ⟨last, hlast⟩ := Automaton.exists_walk behind spelt fun h => by
          simp [h, Automaton.ofOperations] at outer
        rw [← symbols, Automaton.walk_append, hu] at hlast
        obtain ⟨r, hr, _⟩ := Option.bind_eq_some_iff.1 (show (leads? q' c.symbol).bind _ = _ from hlast)
        exact ⟨r, hr⟩
      have hwalk : Automaton.walk q (u.map Tree.symbol ++ [c.symbol]) = some r := by
        rw [Automaton.walk_snoc hu, hr]
      exact absurd (hd hslash) (Automaton.takes_of_encloses behind spelt outer hcut hwalk).2.1
  · exact .of_none (Tree.operator?_eq_none hsymbol hinfixed) q' b.kind

/-- The children of a proper phrase suit the states before them, and what follows them. -/
theorem suits_child {n : Nonterminal} {p : List Item} {children : List Tree} {a b : Token}
    {u v : List Tree} {c : Tree} {q q' next : Nat} {more more' : List Token}
    (hq : q < Automaton.stateCount) (behind : goto? q n = some next) (spelt : p ∈ productions n)
    (symbols : children.map Tree.symbol = Reduction.children p)
    (groups : n = .infixExpr → Tree.GroupsLeft children) (proper : ∀ c ∈ children, c.Proper)
    (suits : (Tree.node n (rolesOf p) children).Suits q a.kind) (follows : Follows q n a.kind)
    (split : children = u ++ c :: v) (hu : Automaton.walk q (u.map Tree.symbol) = some q')
    (first : Tree.tokensOfAll v ++ a :: more = b :: more') : c.Suits q' b.kind := by
  by_cases hvalue : n = .valueExpr
  · subst hvalue
    obtain ⟨_, _, rfl, _⟩ := Tree.exists_value spelt
    obtain ⟨c', rfl, _⟩ := List.map_eq_singleton_iff.1 symbols
    obtain ⟨rfl, hrest⟩ | ⟨_, hrest⟩ := List.singleton_eq_append_iff.1 split
    · obtain ⟨rfl, rfl⟩ := List.cons.inj hrest
      obtain rfl := Option.some.inj hu
      obtain rfl : a = b := (List.cons.inj first).1
      exact suits_value spelt symbols (proper c (by simp)) suits
    · cases hrest
  by_cases hinfixed : n = .infixExpr
  · subst hinfixed
    obtain ⟨l, op, r, hop, rfl, hl, _⟩ := Tree.exists_operands spelt symbols
    exact suits_operand hq hop hl proper (groups rfl) suits split hu first
  · exact suits_enclosed behind spelt (by simp [Automaton.ofOperations, hvalue, hinfixed]) symbols proper
      follows split hu first

/-- Where a phrase is begun that suits the state and the token behind it, its children can be read one by
one, and the phrase is completed behind the last of them. -/
theorem exists_walk_of_suits {n : Nonterminal} {p : List Item} {children : List Tree} {k : Terminal}
    {q next : Nat} (behind : goto? q n = some next) (spelt : p ∈ productions n)
    (symbols : children.map Tree.symbol = Reduction.children p)
    (suits : (Tree.node n (rolesOf p) children).Suits q k) (follows : Follows q n k) :
    ∃ last, Automaton.walk q (children.map Tree.symbol) = some last ∧
      reduction? last k = some (reductionOf n p) := by
  have hoperation : n = .infixExpr → ∃ o ∈ operators, ⟨.terminal o, some .op⟩ ∈ p ∧
      (Tree.node n (rolesOf p) children).operator? = some o := by
    rintro rfl
    obtain ⟨l, op, r, hop, rfl, _, _, hmem⟩ := Tree.exists_operands spelt symbols
    exact ⟨op.kind, hop, hmem, rfl⟩
  obtain ⟨last, hlast⟩ := Automaton.exists_walk behind spelt fun hn => by
    obtain ⟨o, ho, hmem, hoperator⟩ := hoperation hn
    exact ⟨o, ho, hmem, suits.begun o hoperator⟩
  have hsum : k = .slash → Automaton.isSum p = false := by
    intro hslash
    by_cases hn : n = .infixExpr
    · obtain ⟨o, _, hmem, hoperator⟩ := hoperation hn
      obtain rfl := suits.divides hslash o hoperator
      subst hn
      obtain ⟨o, _, rfl⟩ := Tree.exists_operator spelt
      simp at hmem
      subst hmem
      rfl
    · exact not_isSum spelt hn
  rw [symbols]
  exact ⟨last, hlast, Automaton.reduction?_of_follows behind spelt hlast follows hsum⟩

/-! ### The main statement -/

/-- A proper tree is read wherever its symbol leads on. -/
theorem Consumes.of_proper {t : Tree} {e : Ending} (h : t.Proper) : ∀ (s : Stack) (next : Nat) (a : Token)
    (more : List Token), Viable s → leads? s.state t.symbol = some next → t.Suits s.state a.kind →
      a.kind.isComment = false → Consumes (a :: more) (⟨next, t⟩ :: s) e →
        Consumes (t.tokens ++ a :: more) s e := by
  induction h with
  | leaf plain =>
    intro s next a more _ leads _ _ behind
    rw [Tree.tokens, List.singleton_append]
    exact .more (.shift plain leads) behind
  | @node n p children spelt inhabited symbols groups below ih =>
    intro s next a more hv leads suits plain behind
    have hgoto : goto? s.state n = some next := leads
    have hviable : Viable (⟨next, .node n (rolesOf p) children⟩ :: s) := .read hv rfl leads
    obtain ⟨_, hsettles⟩ := behind.exists_settles
    have hnone : ∀ t ∈ ([] : List Tree), t.isComment = true := nofun
    have hfollows : Follows s.state n a.kind := hsettles.follows plain hnone rfl hviable
    obtain ⟨last, hlast, hasks⟩ := exists_walk_of_suits hgoto spelt symbols suits hfollows
    have hlength : p.length = children.length := by
      have h := congrArg List.length symbols
      simpa [Reduction.children] using h.symm
    have hchildren : children ≠ [] := by
      rintro rfl
      exact inhabited (List.length_eq_zero_iff.1 hlength)
    rw [Tree.tokens]
    refine .of_children hv plain below hlast ?_ ih fun t climbs => ?_
    · exact fun u c v split q hu b more' first =>
        suits_child hv.state_lt hgoto spelt symbols groups below suits hfollows split hu first
    · have hstate := Option.some.inj (climbs.state.symm.trans hlast)
      rw [← hstate] at hasks
      obtain ⟨next', hnext', hreduces⟩ := climbs.reduces hv hasks hlength hchildren
      obtain rfl := Option.some.inj (hgoto.symm.trans hnext')
      exact .reduce plain hasks hreduces behind

/-- The tokens of a proper program are consumed, and the program is accepted. -/
theorem Consumes.of_program {t : Tree} {stop : Token} (proper : t.Proper)
    (isProgram : t.symbol = .nonterminal .program) (kind : stop.kind = .endOfText) :
    Consumes (t.tokens ++ [stop]) [] (.accepted t) := by
  cases t with
  | leaf => cases isProgram
  | node phrase layout children =>
    obtain rfl := Symbol.nonterminal.inj isProgram
    have hleads : leads? Automaton.start (.nonterminal .program) = some Automaton.final := by
      decide +kernel
    have haccepts : Settles stop [⟨Automaton.final, .node .program layout children⟩]
        (.accepted (.node .program layout children)) := by
      simpa using @Settles.accept stop [⟨Automaton.final, .node .program layout children⟩] [] [] layout
        children rfl kind rfl nofun nofun
    have hnone := Tree.operator?_eq_none (t := .node .program layout children) (by simp [Tree.symbol])
      (by simp [Tree.symbol])
    exact .of_proper proper [] _ stop [] .empty hleads (.of_none hnone _ _) (by rw [kind]; rfl)
      (.last haccepts)

end Numscript.Parser
