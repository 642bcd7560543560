import Numscript.Proofs.Parser.Branch

/-!
# Spines

What a stack does before a token depends on nothing but the states of its phrases and tokens. These are its
spine. Comments leave no trace on it, a token that is pushed puts one state on it, and a reduction takes as
many off as the phrase has children.
-/
namespace Numscript.Parser

open Automaton (Reduction leads? goto? reduction?)

/-- The states behind the phrases and tokens of a stack, the top first. -/
def Stack.spine (stack : Stack) : List Nat := stack.plain.map (·.state)

/-- The state on top of a spine. -/
def top : List Nat → Nat
  | [] => Automaton.start
  | q :: _ => q

theorem Stack.spine_comment {f : Frame} (h : f.tree.isComment = true) (stack : Stack) :
    Stack.spine (f :: stack) = stack.spine := by
  simp [spine, plain, h]

theorem Stack.spine_cons {f : Frame} (h : f.tree.isComment = false) (stack : Stack) :
    Stack.spine (f :: stack) = f.state :: stack.spine := by
  simp [spine, plain, h]

theorem Stack.spine_append (upper lower : Stack) :
    Stack.spine (upper ++ lower) = upper.spine ++ lower.spine := by
  simp [spine, plain]

theorem Stack.spine_of_comments {stack : Stack} (h : ∀ f ∈ stack, f.tree.isComment = true) :
    stack.spine = [] := by
  rw [spine, plain_of_comments h]
  rfl

theorem Stack.spine_bare (stack : Stack) : stack.bare.spine = stack.spine := by
  rw [spine, spine, bare_plain]

theorem spine_strew {q : Nat} {comments : List Tree} (hc : ∀ c ∈ comments, c.isComment = true)
    (stack : Stack) : Stack.spine (strew q comments ++ stack) = stack.spine := by
  rw [Stack.spine_append, Stack.spine_of_comments (isComment_strew hc), List.nil_append]

theorem Viable.top_spine {stack : Stack} (h : Viable stack) : top stack.spine = stack.state := by
  induction h with
  | empty => rfl
  | comment _ hc ih => rw [Stack.spine_comment hc, ih]; rfl
  | read _ plain _ _ => rw [Stack.spine_cons plain]; rfl

theorem Stack.spine_pop {count : Nat} {stack rest : Stack} {above children : List Tree}
    (h : stack.pop count above = some (children, rest)) : rest.spine = stack.spine.drop count := by
  obtain ⟨taken, rfl, _, hcount⟩ := Stack.pop_eq_some h
  have hlength : taken.spine.length = count := by rw [spine, List.length_map]; exact hcount
  rw [spine_append, ← hlength, List.drop_left]

/-- A reduction on the spine. -/
theorem Reduces.spine {r : Reduction} {s kept : Stack} (h : Reduces r s kept) (hv : Viable s) :
    ∃ n, goto? (top (s.spine.drop r.arity)) r.phrase = some n ∧
      kept.spine = n :: s.spine.drop r.arity := by
  have hkept := hv.of_reduces h
  obtain @⟨_, rest, n, pop, leads, _⟩ := h
  have hrest : Viable rest := by
    obtain ⟨taken, hbare, _⟩ := Stack.pop_eq_some pop
    have hdrop : Viable s.bare := hv.dropWhile
    rw [hbare] at hdrop
    exact hdrop.of_append
  have hspine := Stack.spine_pop pop
  rw [Stack.spine_bare] at hspine
  refine ⟨n, ?_, ?_⟩
  · rw [← hspine, hrest.top_spine]
    exact leads
  · rw [Stack.spine_append, Stack.spine_of_comments (s.isComment_restated n), List.nil_append,
      Stack.spine_cons rfl, hspine]

/-- A branch of the machine on spines that ends by pushing a token. -/
inductive Takes (k : Terminal) : List Nat → List Nat → Prop where
  | shift {s : List Nat} {n : Nat} (leads : leads? (top s) (.terminal k) = some n) :
      Takes k s (n :: s)
  | reduce {s t : List Nat} {r : Reduction} {n : Nat} (asks : reduction? (top s) k = some r)
      (leads : goto? (top (s.drop r.arity)) r.phrase = some n)
      (rest : Takes k (n :: s.drop r.arity) t) : Takes k s t

theorem Settles.takes {token : Token} {s t : Stack} (h : Settles token s (.pushed t))
    (hv : Viable s) (plain : token.kind.isComment = false) : Takes token.kind s.spine t.spine := by
  generalize he : Ending.pushed t = e at h
  induction h with
  | pass comment => simp [comment] at plain
  | shift _ leads =>
    cases he
    have hleaf : (Tree.leaf token).isComment = false := plain
    rw [Stack.spine_cons hleaf]
    refine .shift ?_
    rw [hv.top_spine]
    exact leads
  | reduce _ asks reduces _ ih =>
    obtain ⟨n, leads, hspine⟩ := reduces.spine hv
    rw [← hv.top_spine] at asks
    refine .reduce asks leads ?_
    rw [← hspine]
    exact ih (hv.of_reduces reduces) he
  | accept => cases he

theorem Settles.spine_of_comment {token : Token} {s t : Stack} (h : Settles token s (.pushed t))
    (comment : token.kind.isComment = true) : t.spine = s.spine := by
  cases h with
  | pass =>
    have hleaf : (Tree.leaf token).isComment = true := comment
    exact Stack.spine_comment hleaf s
  | shift plain => simp [comment] at plain
  | reduce plain => simp [comment] at plain

/-- What a branch makes of the spine of a viable stack, it makes of the stack. -/
theorem Takes.settles {token : Token} {s : Stack} {t : List Nat} (hv : Viable s)
    (plain : token.kind.isComment = false) (h : Takes token.kind s.spine t) :
    ∃ t', Settles token s (.pushed t') ∧ t'.spine = t := by
  generalize hs : s.spine = s' at h
  induction h generalizing s with
  | shift leads =>
    subst hs
    rw [hv.top_spine] at leads
    have hleaf : (Tree.leaf token).isComment = false := plain
    exact ⟨_, .shift plain leads, Stack.spine_cons hleaf s⟩
  | reduce asks leads _ ih =>
    subst hs
    rw [hv.top_spine] at asks
    obtain ⟨kept, _, reduces⟩ := hv.reduce asks
    obtain ⟨n, leads', hspine⟩ := reduces.spine hv
    rw [leads] at leads'
    obtain rfl := Option.some.inj leads'
    obtain ⟨t', hsettles, ht'⟩ := ih (hv.of_reduces reduces) hspine
    exact ⟨t', .reduce plain asks reduces hsettles, ht'⟩

end Numscript.Parser
