import Numscript.Proofs.Parser.Spine

/-!
# Spines in lockstep

Two spines move in lockstep when they were led on by the same symbols from some base. While both complete the
same phrases they keep doing so, as long as no phrase of both reaches into the base.
-/
namespace Numscript.Parser

open Automaton (Reduction Goal goals leads? goto? reduction?)

/-- Spines that the same symbols led on from a base, through pairs of states that fit. -/
inductive Lockstep (base : List Nat → List Nat → Prop) (fits : Nat → Nat → Prop) :
    List Nat → List Nat → Prop where
  | base {s t : List Nat} (h : base s t) : Lockstep base fits s t
  | read {s t : List Nat} {x : Symbol} {n m : Nat} (below : Lockstep base fits s t)
      (leads : leads? (top s) x = some n) (leads' : leads? (top t) x = some m) (fit : fits n m) :
      Lockstep base fits (n :: s) (m :: t)

/-- From a pair of states to another one some children of a phrase are read in lockstep. -/
inductive Span (fits : Nat → Nat → Prop) (r : Reduction) (p : Nat × Nat) : Nat → Nat × Nat → Prop where
  | first {x : Symbol} {n m : Nat} (leads : leads? p.1 x = some n) (leads' : leads? p.2 x = some m)
      (fit : fits n m) (goal : ⟨r, 1⟩ ∈ goals n) (goal' : ⟨r, 1⟩ ∈ goals m) : Span fits r p 1 (n, m)
  | next {count : Nat} {q : Nat × Nat} {x : Symbol} {n m : Nat} (before : Span fits r p count q)
      (leads : leads? q.1 x = some n) (leads' : leads? q.2 x = some m) (fit : fits n m)
      (goal : ⟨r, count + 1⟩ ∈ goals n) (goal' : ⟨r, count + 1⟩ ∈ goals m) :
      Span fits r p (count + 1) (n, m)

variable {base : List Nat → List Nat → Prop} {fits : Nat → Nat → Prop}

/-- The children of a phrase that both spines are in the midst of were read in lockstep. -/
theorem Lockstep.pop {s t : List Nat} (h : Lockstep base fits s t) {r : Reduction}
    (closed : ∀ s t, base s t → ∀ g ∈ goals (top s), g ∈ goals (top t) → g.reduction ≠ r)
    {count : Nat} (goal : ⟨r, count + 1⟩ ∈ goals (top s))
    (goal' : ⟨r, count + 1⟩ ∈ goals (top t)) :
    Lockstep base fits (s.drop (count + 1)) (t.drop (count + 1)) ∧
      Span fits r (top (s.drop (count + 1)), top (t.drop (count + 1))) (count + 1) (top s, top t) := by
  induction h generalizing count with
  | base h => exact absurd rfl (closed _ _ h _ goal goal')
  | @read s t x n m below leads leads' fit ih =>
    cases count with
    | zero => exact ⟨below, .first leads leads' fit goal goal'⟩
    | succ count =>
      obtain ⟨hrest, hspan⟩ := ih (Automaton.goal_below leads goal) (Automaton.goal_below leads' goal')
      exact ⟨hrest, .next hspan leads leads' fit goal goal'⟩

theorem arity_ne_zero {q : Nat} {k : Terminal} {r : Reduction} (asks : reduction? q k = some r)
    (start : q ≠ Automaton.start) : r.arity ≠ 0 :=
  fun harity => start (eq_start_of_arity asks harity)

/-- Before two spines complete the same phrase, its children were read in lockstep. -/
theorem Lockstep.reduces {s t : List Nat} {k k' : Terminal} (h : Lockstep base fits s t) {r : Reduction}
    (closed : ∀ s t, base s t → ∀ g ∈ goals (top s), g ∈ goals (top t) → g.reduction ≠ r)
    (arity : r.arity ≠ 0) (asks : reduction? (top s) k = some r)
    (asks' : reduction? (top t) k' = some r) :
    Lockstep base fits (s.drop r.arity) (t.drop r.arity) ∧
      Span fits r (top (s.drop r.arity), top (t.drop r.arity)) r.arity (top s, top t) := by
  have goal := Automaton.goal_of_reduction asks
  have goal' := Automaton.goal_of_reduction asks'
  obtain ⟨count, harity⟩ := Nat.exists_eq_add_one_of_ne_zero arity
  rw [harity] at goal goal' ⊢
  exact h.pop closed goal goal'

/-- The first child of a span, and the second one if there is one. -/
theorem Span.first_child {r : Reduction} {p q : Nat × Nat} {count : Nat}
    (h : Span fits r p count q) : ∃ x n m, leads? p.1 x = some n ∧ leads? p.2 x = some m ∧
      fits n m ∧ ⟨r, 1⟩ ∈ goals n ∧ ⟨r, 1⟩ ∈ goals m ∧ (count = 1 ∧ q = (n, m) ∨ ∃ y n' m',
        leads? n y = some n' ∧ leads? m y = some m' ∧ fits n' m' ∧ ⟨r, 2⟩ ∈ goals n' ∧
        ⟨r, 2⟩ ∈ goals m') := by
  induction h with
  | first leads leads' fit goal goal' =>
    exact ⟨_, _, _, leads, leads', fit, goal, goal', .inl ⟨rfl, rfl⟩⟩
  | next _ leads leads' fit goal goal' ih =>
    obtain ⟨x, n, m, hn, hm, hfit, hgoal, hgoal', ⟨rfl, rfl⟩ | htwo⟩ := ih
    · exact ⟨x, n, m, hn, hm, hfit, hgoal, hgoal',
        .inr ⟨_, _, _, leads, leads', fit, goal, goal'⟩⟩
    · exact ⟨x, n, m, hn, hm, hfit, hgoal, hgoal', .inr htwo⟩

/-- A state does nothing with a token but a reduction. -/
theorem Takes.reduces {k : Terminal} {s t : List Nat} {r : Reduction} {n : Nat} (h : Takes k s t)
    (alone : leads? (top s) (.terminal k) = none) (asks : reduction? (top s) k = some r)
    (leads : goto? (top (s.drop r.arity)) r.phrase = some n) : Takes k (n :: s.drop r.arity) t := by
  cases h with
  | shift hleads =>
    rw [alone] at hleads
    cases hleads
  | reduce hasks hgoto rest =>
    rw [asks] at hasks
    obtain rfl := Option.some.inj hasks
    rw [leads] at hgoto
    obtain rfl := Option.some.inj hgoto
    exact rest

theorem Takes.shifts {k : Terminal} {s t : List Nat} (h : Takes k s t)
    (none : reduction? (top s) k = none) : ∃ n, leads? (top s) (.terminal k) = some n ∧ t = n :: s := by
  cases h with
  | shift leads => exact ⟨_, leads, rfl⟩
  | reduce asks =>
    rw [none] at asks
    cases asks

theorem Takes.acts {k : Terminal} {s t : List Nat} (h : Takes k s t) :
    (leads? (top s) (.terminal k)).isSome = true ∨ (reduction? (top s) k).isSome = true := by
  cases h with
  | shift leads => exact .inl (by rw [leads]; rfl)
  | reduce asks => exact .inr (by rw [asks]; rfl)

end Numscript.Parser
