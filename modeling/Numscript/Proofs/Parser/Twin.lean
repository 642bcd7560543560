import Numscript.Proofs.Automaton.Pairs
import Numscript.Proofs.Parser.Branch
import Numscript.Proofs.Tree.Kin

/-!
# Twin stacks

Two stacks of the machine are twins when they have read the same tokens and differ in nothing but the
ways they took out of the conflict. A conflict is open until the braces are closed: there the one stack
holds the word `remaining`, and the other one a share of what remains. Behind the closing brace the two
readings of the braces are kin, and above them the stacks go on alike.
-/
namespace Numscript

namespace Parser

open Automaton (Reduction Goal Crossing crossings conflictPairs twinPairs goals leads? goto?
  reduction?)

/-- Two stacks that differ only in the ways they took out of the conflict. -/
inductive Twin : Stack → Stack → Prop where
  | empty : Twin [] []
  | comment {s t : Stack} {c : Tree} (below : Twin s t)
      (h : c.isComment = true) : Twin (⟨s.state, c⟩ :: s) (⟨t.state, c⟩ :: t)
  | read {s t : Stack} {c d : Tree} {n m : Nat} (below : Twin s t)
      (plain : c.isComment = false) (plain' : d.isComment = false) (same : d.symbol = c.symbol)
      (kin : Kin c d) (leads : leads? s.state c.symbol = some n)
      (leads' : leads? t.state c.symbol = some m) : Twin (⟨n, c⟩ :: s) (⟨m, d⟩ :: t)
  /-- The first stack holds the word, and the second one a share. -/
  | opened {s t : Stack} {x : Crossing} {w : Token} (below : Twin s t)
      (mem : x ∈ crossings) (at_ : s.state = x.opening) (at' : t.state = x.opening)
      (kind : w.kind = .kwRemaining) :
      Twin (⟨x.word, .leaf w⟩ :: s) (⟨518, Braces.share w⟩ :: t)
  | opened' {s t : Stack} {x : Crossing} {w : Token} (below : Twin s t)
      (mem : x ∈ crossings) (at_ : s.state = x.opening) (at' : t.state = x.opening)
      (kind : w.kind = .kwRemaining) :
      Twin (⟨518, Braces.share w⟩ :: s) (⟨x.word, .leaf w⟩ :: t)
  /-- The closing brace stands on both stacks, and neither has completed its destination. -/
  | shut {s t : Stack} {x : Crossing} {w brace : Token} {between behind : List Tree}
      {target target' : Tree} (below : Twin s t) (mem : x ∈ crossings)
      (at_ : s.state = x.opening) (at' : t.state = x.opening) (kind : w.kind = .kwRemaining)
      (closes : brace.kind = .rbrace) (comments : ∀ c ∈ between ++ behind, c.isComment = true)
      (plain : target.isComment = false) (kin : Kin target target') :
      Twin
        (⟨x.closing, .leaf brace⟩ :: (strew x.target behind ++
          ⟨x.target, target⟩ :: (strew x.word between ++ ⟨x.word, .leaf w⟩ :: s)))
        (⟨x.closing', .leaf brace⟩ :: (strew x.clauses behind ++
          ⟨x.clauses, Braces.clauses w between.reverse target'⟩ :: t))
  | shut' {s t : Stack} {x : Crossing} {w brace : Token} {between behind : List Tree}
      {target target' : Tree} (below : Twin s t) (mem : x ∈ crossings)
      (at_ : s.state = x.opening) (at' : t.state = x.opening) (kind : w.kind = .kwRemaining)
      (closes : brace.kind = .rbrace) (comments : ∀ c ∈ between ++ behind, c.isComment = true)
      (plain : target'.isComment = false) (kin : Kin target target') :
      Twin
        (⟨x.closing', .leaf brace⟩ :: (strew x.clauses behind ++
          ⟨x.clauses, Braces.clauses w between.reverse target⟩ :: s))
        (⟨x.closing, .leaf brace⟩ :: (strew x.target behind ++
          ⟨x.target, target'⟩ :: (strew x.word between ++ ⟨x.word, .leaf w⟩ :: t)))
  /-- The first stack holds a destination that is filled in order, and the second one an allotment. -/
  | turned {s t : Stack} {n m : Nat} {target target' : Tree} (below : Twin s t)
      (b : Braces) (kin : Kin target target') (leads : goto? s.state .destInorder = some n)
      (leads' : goto? t.state .destAllotment = some m)
      (pair : (n, m) ∈ Automaton.turnedPairs) :
      Twin (⟨n, b.inOrder target⟩ :: s) (⟨m, b.allotment target'⟩ :: t)
  | turned' {s t : Stack} {n m : Nat} {target target' : Tree} (below : Twin s t)
      (b : Braces) (kin : Kin target target') (leads : goto? s.state .destAllotment = some n)
      (leads' : goto? t.state .destInorder = some m)
      (pair : (m, n) ∈ Automaton.turnedPairs) :
      Twin (⟨n, b.allotment target⟩ :: s) (⟨m, b.inOrder target'⟩ :: t)

theorem Twin.symm {s t : Stack} (h : Twin s t) : Twin t s := by
  induction h with
  | empty => exact .empty
  | comment _ hc ih => exact .comment ih hc
  | read _ plain plain' same kin leads leads' ih =>
    refine .read ih plain' plain same.symm kin.symm ?_ ?_
    · rw [same]
      exact leads'
    · rw [same]
      exact leads
  | opened _ mem hs ht kind ih => exact .opened' ih mem ht hs kind
  | opened' _ mem hs ht kind ih => exact .opened ih mem ht hs kind
  | shut _ mem hs ht kind closes comments plain kin ih =>
    exact .shut' ih mem ht hs kind closes comments plain kin.symm
  | shut' _ mem hs ht kind closes comments plain kin ih =>
    exact .shut ih mem ht hs kind closes comments plain kin.symm
  | turned _ b kin leads leads' pair ih => exact .turned' ih b kin.symm leads' leads pair
  | turned' _ b kin leads leads' pair ih => exact .turned ih b kin.symm leads' leads pair

theorem Viable.twin {s : Stack} (h : Viable s) : Twin s s := by
  induction h with
  | empty => exact .empty
  | comment _ hc ih => exact .comment ih hc
  | @read s c n _ plain leads ih => exact .read ih plain plain rfl (Kin.refl c) leads leads

/-- The states on top of twins are the same, or a pair that the conflict leads to. -/
theorem Twin.tops {s t : Stack} (h : Twin s t) : s.state = t.state ∨
    (s.state, t.state) ∈ twinPairs ∨ (t.state, s.state) ∈ twinPairs := by
  have hconflict : ∀ x ∈ crossings, (x.word, 518) ∈ twinPairs := by decide
  have hshut : ∀ x ∈ crossings, (x.closing, x.closing') ∈ twinPairs := by decide
  have hturned : ∀ p ∈ Automaton.turnedPairs, p ∈ twinPairs := by decide
  have hleads : ∀ {a b n m : Nat} {x : Symbol}, (a, b) ∈ twinPairs → leads? a x = some n →
      leads? b x = some m → n = m ∨ (n, m) ∈ twinPairs := by
    intro a b n m x hmem ha hb
    rcases Automaton.mem_of_closed (Automaton.twinPairs_closed _ hmem) ha hb with heq | hpair
    · exact .inl heq
    · refine .inr (List.mem_append_left _ (List.mem_append_left _ hpair))
  induction h with
  | empty => exact .inl rfl
  | comment _ _ ih => exact ih
  | read _ _ _ _ _ leads leads' ih =>
    rcases ih with heq | hpair | hpair
    · rw [heq, leads'] at leads
      exact .inl (Option.some.inj leads).symm
    · exact (hleads hpair leads leads').imp id .inl
    · exact (hleads hpair leads' leads).imp Eq.symm .inr
  | opened _ mem _ _ _ _ => exact .inr (.inl (hconflict _ mem))
  | opened' _ mem _ _ _ _ => exact .inr (.inr (hconflict _ mem))
  | shut _ mem _ _ _ _ _ _ _ _ => exact .inr (.inl (hshut _ mem))
  | shut' _ mem _ _ _ _ _ _ _ _ => exact .inr (.inr (hshut _ mem))
  | turned _ _ _ _ _ pair _ => exact .inr (.inl (hturned _ pair))
  | turned' _ _ _ _ _ pair _ => exact .inr (.inr (hturned _ pair))

/-- Twins have the same comments on top, and twins below them. -/
theorem Twin.peel {s t : Stack} (h : Twin s t) : ∃ comments b c,
    (∀ x ∈ comments, x.isComment = true) ∧ s = strew s.state comments ++ b ∧
      t = strew t.state comments ++ c ∧ b.state = s.state ∧ c.state = t.state ∧ Twin b c ∧
      (∀ x ∈ b.head?, x.tree.isComment = false) ∧ (∀ x ∈ c.head?, x.tree.isComment = false) := by
  induction h with
  | empty => exact ⟨[], [], [], nofun, rfl, rfl, rfl, rfl, .empty, nofun, nofun⟩
  | @comment s t c _ hc ih =>
    obtain ⟨comments, b, d, hcomments, hs, ht, hb, hd, htwin, hplain, hplain'⟩ := ih
    refine ⟨c :: comments, b, d, ?_, ?_, ?_, hb, hd, htwin, hplain, hplain'⟩
    · intro x hx
      rcases List.mem_cons.1 hx with rfl | hx
      · exact hc
      · exact hcomments x hx
    · exact congrArg (_ :: ·) hs
    · exact congrArg (_ :: ·) ht
  | read below plain plain' same kin leads leads' _ =>
    exact ⟨[], _, _, nofun, rfl, rfl, rfl, rfl,
      .read below plain plain' same kin leads leads', by simpa using plain, by simpa using plain'⟩
  | opened below mem hs ht kind _ =>
    exact ⟨[], _, _, nofun, rfl, rfl, rfl, rfl, .opened below mem hs ht kind,
      by simp [Tree.isComment, kind, Terminal.isComment], by simp [Tree.isComment, Braces.share]⟩
  | opened' below mem hs ht kind _ =>
    exact ⟨[], _, _, nofun, rfl, rfl, rfl, rfl, .opened' below mem hs ht kind,
      by simp [Tree.isComment, Braces.share], by simp [Tree.isComment, kind, Terminal.isComment]⟩
  | shut below mem hs ht kind closes comments plain kin _ =>
    exact ⟨[], _, _, nofun, rfl, rfl, rfl, rfl,
      .shut below mem hs ht kind closes comments plain kin,
      by simp [Tree.isComment, closes, Terminal.isComment],
      by simp [Tree.isComment, closes, Terminal.isComment]⟩
  | shut' below mem hs ht kind closes comments plain kin _ =>
    exact ⟨[], _, _, nofun, rfl, rfl, rfl, rfl,
      .shut' below mem hs ht kind closes comments plain kin,
      by simp [Tree.isComment, closes, Terminal.isComment],
      by simp [Tree.isComment, closes, Terminal.isComment]⟩
  | turned below b kin leads leads' pair _ =>
    exact ⟨[], _, _, nofun, rfl, rfl, rfl, rfl, .turned below b kin leads leads' pair,
      by simp [Tree.isComment, Braces.inOrder], by simp [Tree.isComment, Braces.allotment]⟩
  | turned' below b kin leads leads' pair _ =>
    exact ⟨[], _, _, nofun, rfl, rfl, rfl, rfl, .turned' below b kin leads leads' pair,
      by simp [Tree.isComment, Braces.allotment], by simp [Tree.isComment, Braces.inOrder]⟩

theorem Twin.strewn {s t : Stack} (h : Twin s t) {comments : List Tree}
    (hc : ∀ x ∈ comments, x.isComment = true) :
    Twin (strew s.state comments ++ s) (strew t.state comments ++ t) := by
  induction comments with
  | nil => exact h
  | cons x comments ih =>
    have hbelow := ih fun y hy => hc y (List.mem_cons_of_mem _ hy)
    have hcomment := Twin.comment hbelow (hc x List.mem_cons_self)
    rw [state_strew _ _ rfl, state_strew _ _ rfl] at hcomment
    exact hcomment

theorem goals_conflict : ∀ x ∈ crossings, (∀ g ∈ goals x.word, g ∉ goals 518) ∧
    ∀ g ∈ goals x.closing, g ∉ goals x.closing' := by
  decide +kernel

theorem goals_turned : ∀ p ∈ Automaton.turnedPairs, ∀ g ∈ goals p.1, g ∈ goals p.2 → g.read = 1 := by
  decide +kernel

theorem Stack.pop_one {f : Frame} (h : f.tree.isComment = false) (stack : Stack)
    (above : List Tree) : Stack.pop 1 (f :: stack) above = some (f.tree :: above, stack) := by
  rw [Stack.pop, if_neg (by simp [h]), Stack.pop]

theorem Twin.pop_last {a b : Frame} {s t : Stack} (h : Twin s t)
    (plain : a.tree.isComment = false) (plain' : b.tree.isComment = false)
    (kin : Kin a.tree b.tree) {above above' children children' : List Tree} {rest rest' : Stack}
    (kinAll : KinAll above above') (p : Stack.pop 1 (a :: s) above = some (children, rest))
    (p' : Stack.pop 1 (b :: t) above' = some (children', rest')) :
    KinAll children children' ∧ Twin rest rest' := by
  rw [Stack.pop_one plain] at p
  rw [Stack.pop_one plain'] at p'
  obtain ⟨rfl, rfl⟩ := Prod.mk.inj (Option.some.inj p)
  obtain ⟨rfl, rfl⟩ := Prod.mk.inj (Option.some.inj p')
  exact ⟨.cons kin kinAll, h⟩

/-- The children of a phrase that both twins are in the midst of are kin, and twins lie below them. -/
theorem Twin.pop {s t : Stack} (h : Twin s t) {r : Reduction} {count : Nat}
    (goal : ⟨r, count + 1⟩ ∈ goals s.state) (goal' : ⟨r, count + 1⟩ ∈ goals t.state)
    {above above' children children' : List Tree} {rest rest' : Stack} (kin : KinAll above above')
    (p : s.pop (count + 1) above = some (children, rest))
    (p' : t.pop (count + 1) above' = some (children', rest')) :
    KinAll children children' ∧ Twin rest rest' := by
  induction h generalizing count above above' with
  | empty => cases p
  | @comment s t c below hc ih =>
    rw [Stack.pop, if_pos hc] at p p'
    exact ih goal goal' (.cons (Kin.refl c) kin) p p'
  | @read s t c d n m below plain plain' same hkin leads leads' ih =>
    cases count with
    | zero => exact below.pop_last plain plain' hkin kin p p'
    | succ count =>
      rw [Stack.pop, if_neg (by simp [plain])] at p
      rw [Stack.pop, if_neg (by simp [plain'])] at p'
      exact ih (Automaton.goal_below leads goal) (Automaton.goal_below leads' goal')
        (.cons hkin kin) p p'
  | opened _ mem _ _ _ _ => exact absurd goal' ((goals_conflict _ mem).1 _ goal)
  | opened' _ mem _ _ _ _ => exact absurd goal ((goals_conflict _ mem).1 _ goal')
  | shut _ mem _ _ _ _ _ _ _ _ => exact absurd goal' ((goals_conflict _ mem).2 _ goal)
  | shut' _ mem _ _ _ _ _ _ _ _ => exact absurd goal ((goals_conflict _ mem).2 _ goal')
  | turned below b hkin leads leads' pair _ =>
    have hread := goals_turned _ pair _ goal goal'
    obtain rfl : count = 0 := Nat.succ.inj hread
    exact below.pop_last rfl rfl (.turned b hkin) kin p p'
  | turned' below b hkin leads leads' pair _ =>
    have hread := goals_turned _ pair _ goal' goal
    obtain rfl : count = 0 := Nat.succ.inj hread
    exact below.pop_last rfl rfl (.returned b hkin) kin p p'

/-- Where both twins complete the same phrase, they become twins again. -/
theorem Twin.reduces {s t s' t' : Stack} {r : Reduction} {k : Terminal}
    (h : Twin s t) (asks : reduction? s.state k = some r) (asks' : reduction? t.state k = some r)
    (hr : Reduces r s s') (hr' : Reduces r t t') : Twin s' t' := by
  obtain ⟨comments, b, c, hcomments, hs, ht, hb, hc, htwin, hplain, hplain'⟩ := h.peel
  have hgoal := Automaton.goal_of_reduction asks
  have hgoal' := Automaton.goal_of_reduction asks'
  rw [← hb] at hgoal
  rw [← hc] at hgoal'
  rw [hs] at hr
  rw [ht] at hr'
  obtain ⟨children, rest, next, pop, leads, rfl⟩ := hr.of_strew hcomments hplain
  obtain ⟨children', rest', next', pop', leads', rfl⟩ := hr'.of_strew hcomments hplain'
  have hpopped : KinAll children children' ∧ Twin rest rest' := by
    cases harity : r.arity with
    | zero =>
      rw [harity, Stack.pop] at pop pop'
      obtain ⟨rfl, rfl⟩ := Prod.mk.inj (Option.some.inj pop)
      obtain ⟨rfl, rfl⟩ := Prod.mk.inj (Option.some.inj pop')
      exact ⟨.nil, htwin⟩
    | succ count =>
      rw [harity] at pop pop' hgoal hgoal'
      exact htwin.pop hgoal hgoal' .nil pop pop'
  have hread : Twin (⟨next, .node r.phrase r.layout children⟩ :: rest)
      (⟨next', .node r.phrase r.layout children'⟩ :: rest') :=
    .read hpopped.2 rfl rfl rfl (.node hpopped.1) leads leads'
  exact hread.strewn hcomments

end Parser
end Numscript
