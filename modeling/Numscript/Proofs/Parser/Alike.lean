import Numscript.Proofs.Parser.Settle

/-!
# Stacks with the same outline

Two stacks with the same states, and comments in the same places, go on alike: what a token makes of
the one, up to the trees, it makes of the other.
-/
namespace Numscript.Parser

open Automaton (Reduction leads? goto? reduction?)

theorem outline_cons {f : Frame} {s s' : Stack} (h : s'.outline = Stack.outline (f :: s)) :
    ∃ g t, s' = g :: t ∧ g.state = f.state ∧ g.tree.isComment = f.tree.isComment ∧
      Stack.outline t = s.outline := by
  cases s' with
  | nil => cases h
  | cons g t =>
    simp only [Stack.outline, List.map_cons, List.cons.injEq, Prod.mk.injEq] at h
    exact ⟨g, t, rfl, h.1.1, h.1.2, h.2⟩

theorem outline_state {s s' : Stack} (h : s'.outline = s.outline) : s'.state = s.state := by
  cases s with
  | nil => rw [List.map_eq_nil_iff.1 h]
  | cons f s =>
    obtain ⟨g, t, rfl, hstate, _⟩ := outline_cons h
    exact hstate

theorem outline_comments {s s' : Stack} (h : s'.outline = s.outline) (next : Nat) :
    Stack.outline (s'.comments.map fun f => { f with state := next }) =
      Stack.outline (s.comments.map fun f => { f with state := next }) ∧
      s'.bare.outline = s.bare.outline := by
  induction s generalizing s' with
  | nil =>
    rw [List.map_eq_nil_iff.1 h]
    exact ⟨rfl, rfl⟩
  | cons f s ih =>
    obtain ⟨g, t, rfl, hstate, hcomment, htail⟩ := outline_cons h
    obtain ⟨hcomments, hbare⟩ := ih htail
    rw [Stack.comments_cons, Stack.comments_cons, Stack.bare_cons, Stack.bare_cons, hcomment]
    split
    · refine ⟨?_, hbare⟩
      simp only [Stack.outline, List.map_cons, hcomment] at hcomments ⊢
      rw [hcomments]
    · exact ⟨rfl, h⟩

theorem outline_pop {count : Nat} {s s' rest : Stack} {above above' children : List Tree}
    (h : s'.outline = s.outline) (hpop : s.pop count above = some (children, rest)) :
    ∃ children' rest', s'.pop count above' = some (children', rest') ∧
      rest'.outline = rest.outline := by
  induction s generalizing s' count above above' with
  | nil =>
    rw [List.map_eq_nil_iff.1 h]
    cases count with
    | zero =>
      rw [Stack.pop] at hpop
      cases hpop
      exact ⟨above', [], by rw [Stack.pop], rfl⟩
    | succ count => cases hpop
  | cons f s ih =>
    cases count with
    | zero =>
      rw [Stack.pop] at hpop
      cases hpop
      exact ⟨above', s', by rw [Stack.pop], h⟩
    | succ count =>
      obtain ⟨g, t, rfl, hstate, hcomment, htail⟩ := outline_cons h
      rw [Stack.pop] at hpop
      rw [Stack.pop, hcomment]
      split at hpop
      · next hc =>
        rw [if_pos hc]
        exact ih htail hpop
      · next hc =>
        rw [if_neg hc]
        exact ih htail hpop

theorem Reduces.outline {r : Reduction} {s s' kept kept' : Stack} (h : s'.outline = s.outline)
    (hr : Reduces r s kept) (hr' : Reduces r s' kept') : kept'.outline = kept.outline := by
  obtain ⟨pop, leads, _⟩ := hr
  obtain ⟨pop', leads', _⟩ := hr'
  obtain ⟨_, hbare⟩ := outline_comments h 0
  obtain ⟨_, _, hpop, hrest⟩ := outline_pop hbare pop
  rw [pop'] at hpop
  obtain ⟨rfl, rfl⟩ := Prod.mk.inj (Option.some.inj hpop)
  rw [outline_state hrest, leads] at leads'
  obtain rfl := Option.some.inj leads'
  obtain ⟨hcomments, _⟩ := outline_comments h _
  simp only [Stack.outline, List.map_append, List.map_cons] at hcomments hrest ⊢
  rw [hcomments, hrest]
  rfl

/-- The same step, up to the trees. -/
inductive Step.Alike : Step → Step → Prop where
  | shifted {s s' : Stack} (h : s'.outline = s.outline) : Alike (.shifted s) (.shifted s')
  | reduced {s s' : Stack} (h : s'.outline = s.outline) : Alike (.reduced s) (.reduced s')
  | forked {s s' t t' : Stack} (h : s'.outline = s.outline) (ht : t'.outline = t.outline) :
      Alike (.forked s t) (.forked s' t')
  | accepted {root root' : Tree} : Alike (.accepted root) (.accepted root')
  | refused : Alike .refused .refused

theorem outline_push {s s' : Stack} (h : s'.outline = s.outline) (f : Frame) :
    Stack.outline (f :: s') = Stack.outline (f :: s) :=
  congrArg (_ :: ·) h

theorem Viable.step_alike {s s' : Stack} (h : Viable s) (h' : Viable s')
    (ho : s'.outline = s.outline) (token : Token) :
    Step.Alike (step ground token s) (step ground token s') := by
  have hstate := outline_state ho
  have hboth : ∀ {r : Reduction}, reduction? s.state token.kind = some r →
      ∃ t t', Parser.reduce ground r s = .reduced t ∧ Parser.reduce ground r s' = .reduced t' ∧
        t'.outline = t.outline := by
    intro r hr
    obtain ⟨t, ht, hreduces⟩ := h.reduce hr
    rw [← hstate] at hr
    obtain ⟨t', ht', hreduces'⟩ := h'.reduce hr
    exact ⟨t, t', ht, ht', hreduces.outline ho hreduces'⟩
  simp only [step, Stack.top?_ground, hstate]
  cases haction : Automaton.action? s.state token.kind with
  | none => exact .refused
  | some action =>
    cases action with
    | shift next => exact .shifted (outline_push ho _)
    | pass => exact .shifted (outline_push ho _)
    | reduce r =>
      obtain ⟨t, t', ht, ht', houtline⟩ := hboth (Automaton.reduction?_of_asks (.inl haction))
      simp only [ht, ht']
      exact .reduced houtline
    | both next r =>
      obtain ⟨t, t', ht, ht', houtline⟩ :=
        hboth (Automaton.reduction?_of_asks (.inr ⟨next, haction⟩))
      simp only [ht, ht']
      exact .forked (outline_push ho _) houtline
    | accept =>
      have hfinal := (Automaton.eq_final_of_accept haction).1
      obtain ⟨root, hroot⟩ := h.exists_root hfinal
      obtain ⟨root', hroot'⟩ := h'.exists_root (hstate.trans hfinal)
      simp only [hroot, hroot']
      exact .accepted
    | recover => exact .refused

/-- The same ending, up to the trees. -/
inductive Ending.Alike : Ending → Ending → Prop where
  | pushed {s s' : Stack} (h : s'.outline = s.outline) : Alike (.pushed s) (.pushed s')
  | accepted {root root' : Tree} : Alike (.accepted root) (.accepted root')
  | failed : Alike .failed .failed

/-- Stacks with the same outline have the same endings, up to the trees. -/
theorem Viable.settle_alike {s s' : Stack} (h : Viable s) (h' : Viable s')
    (ho : s'.outline = s.outline) (token : Token) (fuel : Nat) :
    List.Forall₂ Ending.Alike (settle ground token fuel s) (settle ground token fuel s') := by
  induction fuel generalizing s s' with
  | zero => exact .cons .failed .nil
  | succ fuel ih =>
    have halike := h.step_alike h' ho token
    rw [settle, settle]
    generalize hs : step ground token s = a at halike
    generalize hs' : step ground token s' = b at halike
    cases halike with
    | shifted ht => exact .cons (.pushed ht) .nil
    | reduced ht => exact ih (h.reduced hs) (h'.reduced hs') ht
    | forked ht hu => exact .cons (.pushed ht) (ih (h.forked hs).2 (h'.forked hs').2 hu)
    | accepted => exact .cons .accepted .nil
    | refused => exact .cons .failed .nil

end Numscript.Parser
