import Numscript.Proofs.Parser.Sift
import Numscript.Proofs.Parser.Walk
import Numscript.Proofs.Tree.Proper
import Numscript.Proofs.Tree.Source

/-!
# Grouping of operators

On every stack of the machine operators group from the left, quotients before sums. Behind an operator no
operation can be begun that binds as loosely, and before a slash no sum is ever completed: so when a slash is
pushed, the value below it is no sum.
-/
namespace Numscript

open Automaton (Reduction leads? goto? reduction? operators takes)
open Grammar (Item productions tightness)

namespace Automaton

/-- Behind an operator only operations that bind more tightly can be begun. -/
theorem tighter_of_takes : ∀ q ∈ List.range stateCount, ∀ a ∈ operators,
    ∀ r ∈ walk q [.nonterminal .valueExpr, .terminal a], ∀ b ∈ operators, takes r b = true →
      tightness a < tightness b := by
  decide +kernel

/-- No sum is completed before a slash. -/
theorem reduction?_slash : ∀ q ∈ List.range stateCount, ∀ o ∈ operators, o ≠ .slash →
    ∀ last ∈ walk q [.nonterminal .valueExpr, .terminal o, .nonterminal .valueExpr],
      reduction? last .slash = none := by
  decide +kernel

end Automaton

namespace Tree

/-- All operations within a tree without comments have operands that need no parentheses. -/
def Grouped (t : Tree) : Prop :=
  ∀ layout children, Within (.node .infixExpr layout children) t → GroupsLeft children

theorem grouped_leaf (token : Token) : (leaf token).Grouped := by
  intro layout children h
  cases h.eq_of_leaf

theorem grouped_node {phrase : Nonterminal} {layout : Layout} {children : List Tree}
    (here : phrase = .infixExpr → GroupsLeft children) (below : ∀ c ∈ children, c.Grouped) :
    (node phrase layout children).Grouped := by
  intro layout' children' h
  cases h with
  | refl => exact here rfl
  | child mem within => exact below _ mem layout' children' within

theorem Grouped.below {phrase : Nonterminal} {layout : Layout} {children : List Tree}
    (h : (node phrase layout children).Grouped) : ∀ c ∈ children, c.Grouped :=
  fun _ hc layout' children' within => h layout' children' (.child hc within)

theorem isComment_of_phrase {t : Tree} {n : Nonterminal} (h : t.symbol = .nonterminal n) :
    t.isComment = false := by
  cases t with
  | leaf => cases h
  | node => rfl

theorem Within.sifted {s t : Tree} (h : Within s t) (plain : s.isComment = false) :
    Within s.sifted t.sifted := by
  induction h with
  | refl => exact .refl
  | @child phrase layout children c mem within ih =>
    have hplain : c.isComment = false := by
      cases c with
      | leaf => exact within.eq_of_leaf ▸ plain
      | node => rfl
    rw [Tree.sifted, siftedAll_eq]
    exact .child (List.mem_map_of_mem (List.mem_filter.2 ⟨mem, by simp [hplain]⟩)) ih

theorem operator?_of_value {layout : Layout} {c : Tree} {o : Terminal}
    (h : (node .valueExpr layout [c]).operator? = some o) : c.operator? = some o := by
  unfold operator? at h
  split at h
  · next heq => cases heq
  · next heq =>
    cases heq
    exact h
  · cases h

end Tree

namespace Parser

theorem Viable.plain {s : Stack} (h : Viable s) : Viable s.plain ∧ s.plain.state = s.state := by
  induction h with
  | empty => exact ⟨.empty, rfl⟩
  | comment _ hc ih =>
    rw [Stack.plain_comment hc]
    exact ih
  | read _ hr leads ih =>
    rw [Stack.plain_cons hr]
    exact ⟨.read ih.1 hr (ih.2 ▸ leads), rfl⟩

/-- The trees that a reduction takes off a stack without comments, and the production that they complete. -/
structure Handle (r : Reduction) (s kept taken rest : Stack) (p : List Item) : Prop where
  split : s.plain = taken ++ rest
  top : ∃ next children, kept.plain = ⟨next, .node r.phrase r.layout children⟩ :: rest ∧
    Tree.siftedAll children = (taken.map (·.tree.sifted)).reverse
  spelt : p ∈ productions r.phrase
  symbols : (taken.map (·.tree.symbol)).reverse = Reduction.children p
  walk : Automaton.walk rest.state (Reduction.children p) = some s.state

theorem Reduces.exists_handle {s kept : Stack} {k : Terminal} {r : Reduction} (hv : Viable s)
    (asks : reduction? s.state k = some r) (h : Reduces r s kept) :
    ∃ taken rest p, Handle r s kept taken rest p := by
  obtain @⟨children, below, next, pop, _, fill⟩ := h
  obtain ⟨frames, hbare, hchildren, _⟩ := Stack.pop_eq_some pop
  rw [List.append_nil] at hchildren
  have hviable : Viable (frames ++ below) := hbare ▸ hv.dropWhile
  have hitems := Automaton.items_mem_productions asks fill
  have hsymbols : Tree.structural children = (frames.plain.map (·.tree.symbol)).reverse := by
    rw [hchildren, structural_of_taken]
  refine ⟨frames.plain, below.plain, _, ?_, ⟨next, children, ?_, ?_⟩, hitems.1, ?_, ?_⟩
  · rw [← Stack.bare_plain, hbare, Stack.plain_append]
  · exact Stack.plain_restated _ _ rfl _
  · rw [hchildren, Tree.siftedAll_eq, List.filter_reverse, List.map_reverse, List.filter_map,
      List.map_map]
    rfl
  · rw [hitems.2, hsymbols]
  · rw [hviable.of_append.plain.2, hitems.2, hchildren, hviable.walk, ← hbare]
    exact congrArg some hv.state_dropWhile

/-- The frames of a stack without comments, each with a grouped tree that could be begun in the state below
it. What is divided is no sum. -/
inductive Stack.Grouped : Stack → Prop where
  | nil : Grouped []
  | cons {f : Frame} {s : Stack} (below : Grouped s) (tree : f.tree.sifted.Grouped)
      (begun : ∀ o ∈ f.tree.sifted.operator?, o ∈ operators ∧ takes s.state o = true)
      (divides : f.tree.symbol = .terminal .slash →
        ∀ g ∈ s.head?, ∀ o ∈ g.tree.sifted.operator?, o = .slash) : Grouped (f :: s)

theorem Stack.Grouped.of_append {upper lower : Stack} (h : Stack.Grouped (upper ++ lower)) :
    lower.Grouped := by
  induction upper with
  | nil => exact h
  | cons f upper ih =>
    cases h with
    | cons below => exact ih below

theorem Stack.Grouped.trees {s : Stack} (h : s.Grouped) : ∀ f ∈ s, f.tree.sifted.Grouped := by
  induction h with
  | nil => nofun
  | cons _ tree _ _ ih => exact List.forall_mem_cons.2 ⟨tree, ih⟩

/-- No sum lies on top of a stack that a slash is read on. -/
def Stack.Divisible (s : Stack) (before : Terminal) : Prop :=
  before = .slash → ∀ f ∈ s.plain.head?, ∀ o ∈ f.tree.sifted.operator?, o = .slash

theorem tightness_pos (o : Terminal) : 1 ≤ tightness o := by
  unfold tightness
  split <;> decide

theorem tightness_of_ne_slash {o : Terminal} (h : o ≠ .slash) : tightness o = 1 := by
  unfold tightness
  split
  · exact absurd rfl h
  · rfl

/-- Operands that lie on a grouped stack with an operator between them need no parentheses. -/
theorem groupsLeft_of_frames {l op r : Frame} {token : Token} {rest : Stack} (hop : op.tree = .leaf token)
    (ho : token.kind ∈ operators) (hq : rest.state < Automaton.stateCount)
    (walk : Automaton.walk rest.state [.nonterminal .valueExpr, .terminal token.kind] = some op.state)
    (h : Stack.Grouped (r :: op :: l :: rest)) :
    Tree.GroupsLeft [l.tree.sifted, .leaf token, r.tree.sifted] := by
  obtain _ | ⟨_ | ⟨_, _, _, divides⟩, _, begun, _⟩ := h
  constructor
  · intro o hl
    by_cases hslash : token.kind = .slash
    · rw [divides (hop ▸ congrArg _ hslash) l rfl o hl, hslash]
    · rw [tightness_of_ne_slash hslash]
      exact tightness_pos o
  · intro o hr
    obtain ⟨hmem, htakes⟩ := begun o hr
    exact Automaton.tighter_of_takes _ (List.mem_range.2 hq) _ ho _ walk o hmem htakes

/-- The frames that make up an operation. -/
theorem exists_operands {taken : Stack} {p : List Item} (hp : p ∈ productions .infixExpr)
    (symbols : (taken.map (·.tree.symbol)).reverse = Reduction.children p) : ∃ l op r token,
      taken = [r, op, l] ∧ l.tree.symbol = .nonterminal .valueExpr ∧ op.tree = .leaf token ∧
      token.kind ∈ operators ∧
      Reduction.children p =
        [.nonterminal .valueExpr, .terminal token.kind, .nonterminal .valueExpr] := by
  obtain ⟨o, ho, rfl⟩ := Tree.exists_operator hp
  have htaken := congrArg List.reverse symbols
  rw [List.reverse_reverse] at htaken
  obtain ⟨r, more, rfl, _, hmore⟩ := List.map_eq_cons_iff.1 htaken
  obtain ⟨op, more, rfl, hop, hmore⟩ := List.map_eq_cons_iff.1 hmore
  obtain ⟨l, more, rfl, hl, hmore⟩ := List.map_eq_cons_iff.1 hmore
  obtain rfl := List.map_eq_nil_iff.1 hmore
  obtain ⟨token, hleaf, rfl⟩ := Tree.eq_leaf_of_symbol hop
  exact ⟨l, op, r, token, rfl, hl, hleaf, ho, rfl⟩

/-- An operand and an operator on a stack lead to the state on top of it. -/
theorem walk_operator {l op : Frame} {token : Token} {rest : Stack} (hv : Viable ([op, l] ++ rest))
    (hl : l.tree.symbol = .nonterminal .valueExpr) (hop : op.tree = .leaf token)
    (ho : token.kind ∈ operators) :
    Automaton.walk rest.state [.nonterminal .valueExpr, .terminal token.kind] = some op.state := by
  have hplain := Tree.isComment_of_phrase hl
  have htoken : op.tree.isComment = false := by
    have hall : ∀ o ∈ operators, o.isComment = false := by decide
    exact hop ▸ hall _ ho
  have hwalk := hv.walk
  simp only [List.map_cons, List.map_nil, List.reverse_cons, List.reverse_nil, List.nil_append,
    List.singleton_append] at hwalk
  rw [Tree.structural_cons hplain, Tree.structural_cons htoken, hl, hop] at hwalk
  exact hwalk

/-- The operator of a phrase that is no operation is the one of the value that it is. -/
theorem exists_value {taken : Stack} {r : Reduction} {p : List Item} {o : Terminal}
    (spelt : p ∈ productions r.phrase)
    (symbols : (taken.map (·.tree.symbol)).reverse = Reduction.children p)
    (outer : r.phrase ≠ .infixExpr)
    (ho : o ∈ (Tree.node r.phrase r.layout (taken.map (·.tree.sifted)).reverse).operator?) :
    ∃ f, taken = [f] ∧ o ∈ f.tree.sifted.operator? := by
  have hphrase : r.phrase = .valueExpr := by
    by_contra hphrase
    have hnone := Tree.operator?_eq_none
      (t := .node r.phrase r.layout (taken.map (·.tree.sifted)).reverse)
      (fun h => hphrase (Symbol.nonterminal.inj h)) (fun h => outer (Symbol.nonterminal.inj h))
    rw [hnone] at ho
    cases ho
  rw [hphrase] at spelt ho
  obtain ⟨n, _, rfl, _⟩ := Tree.exists_value spelt
  obtain ⟨f, rfl⟩ := List.length_eq_one_iff.1
    (by simpa [Reduction.children] using congrArg List.length symbols)
  exact ⟨f, rfl, Tree.operator?_of_value ho⟩

/-- What a phrase may be that is completed before a token: grouped, and begun in a state that takes its
operator. Before a slash it is no sum. -/
structure Suitable (t : Tree) (q : Nat) (before : Terminal) : Prop where
  grouped : t.Grouped
  begun : ∀ o ∈ t.operator?, o ∈ operators ∧ takes q o = true
  divides : before = .slash → ∀ o ∈ t.operator?, o = .slash

theorem suitable_operation {q last : Nat} {l r : Tree} {token : Token} {layout : Layout}
    {before : Terminal} (hq : q < Automaton.stateCount) (ho : token.kind ∈ operators)
    (walk : Automaton.walk q [.nonterminal .valueExpr, .terminal token.kind, .nonterminal .valueExpr] =
      some last) (asks : (reduction? last before).isSome = true)
    (groups : Tree.GroupsLeft [l, .leaf token, r]) (hl : l.Grouped) (hr : r.Grouped) :
    Suitable (.node .infixExpr layout [l, .leaf token, r]) q before := by
  constructor
  · refine Tree.grouped_node (fun _ => groups) ?_
    simpa [hl, hr] using Tree.grouped_leaf token
  · rintro _ ⟨⟩
    refine ⟨ho, ?_⟩
    have happend := Automaton.walk_append q [.nonterminal .valueExpr, .terminal token.kind]
      [.nonterminal .valueExpr]
    obtain ⟨next, hnext, _⟩ := Option.bind_eq_some_iff.1 (happend.symm.trans walk)
    rw [takes, hnext]
    rfl
  · rintro rfl _ ⟨⟩
    by_contra hslash
    rw [Automaton.reduction?_slash _ (List.mem_range.2 hq) _ ho hslash _ walk] at asks
    cases asks

/-- What a reduction puts on a grouped stack is grouped. -/
theorem Handle.suitable {s kept taken rest : Stack} {k : Terminal} {r : Reduction} {p : List Item}
    (h : Handle r s kept taken rest p) (hv : Viable s) (hs : s.plain.Grouped)
    (divisible : s.Divisible k) (asks : reduction? s.state k = some r) :
    Suitable (.node r.phrase r.layout (taken.map (·.tree.sifted)).reverse) rest.state k := by
  obtain ⟨split, _, spelt, symbols, walk⟩ := h
  have hviable : Viable (taken ++ rest) := split ▸ hv.plain.1
  have htrees : ∀ c ∈ (taken.map (·.tree.sifted)).reverse, c.Grouped := by
    intro c hc
    obtain ⟨f, hf, rfl⟩ := List.mem_map.1 (List.mem_reverse.1 hc)
    exact hs.trees f (split ▸ List.mem_append_left _ hf)
  by_cases hinfixed : r.phrase = .infixExpr
  · rw [hinfixed] at spelt ⊢
    obtain ⟨l, op, g, token, rfl, hl, hop, ho, hp⟩ := exists_operands spelt symbols
    rw [hp] at walk
    have hreverse : ([g, op, l].map (·.tree.sifted)).reverse =
        [l.tree.sifted, .leaf token, g.tree.sifted] := by
      simp [hop, Tree.sifted]
    rw [hreverse] at htrees ⊢
    refine suitable_operation hviable.of_append.state_lt ho walk (by rw [asks]; rfl) ?_ ?_ ?_
    · rw [split] at hs
      exact groupsLeft_of_frames hop ho hviable.of_append.state_lt
        (walk_operator hviable.tail hl hop ho) hs
    · exact htrees _ (by simp)
    · exact htrees _ (by simp)
  · refine ⟨Tree.grouped_node (fun h => absurd h hinfixed) htrees, fun o ho => ?_, fun hslash o ho => ?_⟩
    · obtain ⟨f, rfl, hf⟩ := exists_value spelt symbols hinfixed ho
      rw [split] at hs
      cases hs with
      | cons _ _ begun => exact begun o hf
    · obtain ⟨f, rfl, hf⟩ := exists_value spelt symbols hinfixed ho
      exact divisible hslash f (by rw [split]; rfl) o hf

/-- What a reduction leaves of a grouped stack is grouped. -/
theorem Reduces.grouped {s kept : Stack} {k : Terminal} {r : Reduction} (h : Reduces r s kept)
    (hv : Viable s) (hs : s.plain.Grouped) (divisible : s.Divisible k)
    (asks : reduction? s.state k = some r) : kept.plain.Grouped ∧ kept.Divisible k := by
  obtain ⟨taken, rest, p, handle⟩ := h.exists_handle hv asks
  obtain ⟨grouped, begun, divides⟩ := handle.suitable hv hs divisible asks
  obtain ⟨split, ⟨next, children, hkept, hchildren⟩, _⟩ := handle
  rw [split] at hs
  rw [Stack.Divisible, hkept]
  rw [← hchildren] at grouped begun divides
  refine ⟨.cons hs.of_append grouped begun nofun, ?_⟩
  rintro hslash _ ⟨⟩
  exact divides hslash

/-- A token lies on top of a stack, or nothing does. -/
def Stack.Fresh (s : Stack) : Prop := ∀ f ∈ s.plain.head?, ∃ token, f.tree = .leaf token

theorem Stack.Fresh.divisible {s : Stack} (h : s.Fresh) (before : Terminal) : s.Divisible before := by
  intro _ f hf o ho
  obtain ⟨token, hleaf⟩ := h f hf
  rw [hleaf] at ho
  cases ho

/-- What the machine makes of a grouped stack. -/
theorem Settles.grouped {token : Token} {s : Stack} {e : Ending} (h : Settles token s e) (hv : Viable s)
    (hs : s.plain.Grouped) (divisible : s.Divisible token.kind)
    (fresh : token.kind.isComment = true → s.Fresh) :
    (∀ t, e = .pushed t → t.plain.Grouped ∧ t.Fresh) ∧
      ∀ root, e = .accepted root → root.sifted.Grouped := by
  induction h with
  | @pass s comment =>
    refine ⟨?_, nofun⟩
    rintro _ ⟨⟩
    have hplain : Stack.plain (⟨s.state, .leaf token⟩ :: s) = s.plain :=
      Stack.plain_comment (f := ⟨s.state, .leaf token⟩) comment s
    rw [Stack.Fresh, hplain]
    exact ⟨hs, fresh comment⟩
  | @shift s next plain leads =>
    refine ⟨?_, nofun⟩
    rintro _ ⟨⟩
    have hplain : Stack.plain (⟨next, .leaf token⟩ :: s) = ⟨next, .leaf token⟩ :: s.plain :=
      Stack.plain_cons (f := ⟨next, .leaf token⟩) plain s
    rw [Stack.Fresh, hplain]
    refine ⟨.cons hs (Tree.grouped_leaf token) nofun fun hslash => ?_, ?_⟩
    · exact divisible (Symbol.terminal.inj hslash)
    · rintro _ ⟨⟩
      exact ⟨token, rfl⟩
  | reduce plain asks reduces _ ih =>
    obtain ⟨hgrouped, hdivisible⟩ := reduces.grouped hv hs divisible asks
    refine ih (hv.of_reduces reduces) hgrouped hdivisible fun comment => ?_
    rw [comment] at plain
    cases plain
  | @accept s upper lower layout children _ _ alone above under =>
    refine ⟨nofun, ?_⟩
    rintro _ ⟨⟩
    subst alone
    have hprogram := hs.trees ⟨Automaton.final, .node .program layout children⟩
      (by simp [Stack.plain, Tree.isComment])
    rw [sifted_accepted _ _ above under]
    exact hprogram

/-- The stacks that the machine reaches are grouped. -/
theorem grouped_of_reaches {text : List Glyph} {r : Reading} (h : Reaches text r) :
    r.stack.plain.Grouped ∧ r.stack.Fresh := by
  induction h with
  | start => exact ⟨.nil, nofun⟩
  | push reached _ _ _ pushes ih =>
    have hv := viable_of_reaches reached
    exact (((Ends.pushed pushes).settles hv).grouped hv ih.1 (ih.2.divisible _) fun _ => ih.2).1 _ rfl

/-- In a tree that the machine accepts all operations have operands that need no parentheses. -/
theorem grouped_of_recognises {text : List Glyph} {root : Tree} (h : Recognises text root) :
    root.sifted.Grouped := by
  obtain ⟨reached, _, _, _, completes, accepts⟩ := h
  have hv := viable_of_reaches reached
  obtain ⟨hgrouped, hfresh⟩ := grouped_of_reaches reached
  exact (((Ends.accepted completes accepts).settles hv).grouped hv hgrouped (hfresh.divisible _)
    fun _ => hfresh).2 _ rfl

end Parser
end Numscript
