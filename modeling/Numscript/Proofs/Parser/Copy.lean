import Numscript.Proofs.Parser.Branch
import Numscript.Proofs.Tree.Copy

/-!
# Copies of stacks

What a branch of the machine does is told by the kinds of the tokens. So a stack that is a copy of another
one, before a token of the same kind, has a branch that makes a copy of what the first one makes.
-/
namespace Numscript.Parser

open Automaton (Reduction leads? goto? reduction?)

variable {text text' : List Glyph}

/-- Frames in the same state that hold copies. -/
structure Frame.Copies (text text' : List Glyph) (f f' : Frame) : Prop where
  state : f'.state = f.state
  tree : Copy text text' f.tree f'.tree

/-- Stacks whose frames are copies one by one. -/
abbrev Stack.Copies (text text' : List Glyph) (s s' : Stack) : Prop :=
  List.Forall₂ (Frame.Copies text text') s s'

theorem Stack.Copies.state_eq {s s' : Stack} (h : Stack.Copies text text' s s') :
    s'.state = s.state := by
  cases h with
  | nil => rfl
  | cons head => exact head.state

theorem Stack.Copies.comments {s s' : Stack} (h : Stack.Copies text text' s s') :
    Stack.Copies text text' s.comments s'.comments ∧ Stack.Copies text text' s.bare s'.bare := by
  induction h with
  | nil => exact ⟨.nil, .nil⟩
  | cons head tail ih =>
    rw [Stack.comments_cons, Stack.comments_cons, Stack.bare_cons, Stack.bare_cons,
      head.tree.isComment_eq]
    split
    · exact ⟨.cons head ih.1, ih.2⟩
    · exact ⟨.nil, .cons head tail⟩

theorem Stack.Copies.restated {s s' : Stack} (h : Stack.Copies text text' s s') (next : Nat) :
    Stack.Copies text text' (s.map fun f => { f with state := next })
      (s'.map fun f => { f with state := next }) := by
  induction h with
  | nil => exact .nil
  | cons head _ ih => exact .cons ⟨rfl, head.tree⟩ ih

theorem Stack.Copies.trees {s s' : Stack} (h : Stack.Copies text text' s s') :
    CopyAll text text' (s.map (·.tree)).reverse (s'.map (·.tree)).reverse := by
  rw [copyAll_iff, List.forall₂_reverse_iff, List.forall₂_map_left_iff, List.forall₂_map_right_iff]
  exact h.imp fun _ _ hf => hf.tree

theorem Stack.Copies.exists_append {upper lower s' : Stack}
    (h : Stack.Copies text text' (upper ++ lower) s') : ∃ upper' lower', s' = upper' ++ lower' ∧
      Stack.Copies text text' upper upper' ∧ Stack.Copies text text' lower lower' := by
  induction upper generalizing s' with
  | nil => exact ⟨[], s', rfl, .nil, h⟩
  | cons f upper ih =>
    cases h with
    | cons head tail =>
      obtain ⟨upper', lower', rfl, hupper, hlower⟩ := ih tail
      exact ⟨_ :: upper', lower', rfl, .cons head hupper, hlower⟩

theorem Stack.Copies.isComment {s s' : Stack} (h : Stack.Copies text text' s s')
    (hs : ∀ f ∈ s, f.tree.isComment = true) : ∀ f ∈ s', f.tree.isComment = true := by
  induction h with
  | nil => exact hs
  | cons head _ ih =>
    rw [List.forall_mem_cons] at hs ⊢
    exact ⟨head.tree.isComment_eq.trans hs.1, ih hs.2⟩

theorem Stack.Copies.pop {s s' rest : Stack} {count : Nat} {above above' children : List Tree}
    (h : Stack.Copies text text' s s') (habove : CopyAll text text' above above')
    (hpop : s.pop count above = some (children, rest)) : ∃ children' rest',
      s'.pop count above' = some (children', rest') ∧ CopyAll text text' children children' ∧
        Stack.Copies text text' rest rest' := by
  induction h generalizing count above above' with
  | nil =>
    cases count with
    | zero =>
      rw [Stack.pop] at hpop
      cases hpop
      exact ⟨above', [], by rw [Stack.pop], habove, .nil⟩
    | succ count => cases hpop
  | @cons f f' s s' head tail ih =>
    cases count with
    | zero =>
      rw [Stack.pop] at hpop
      cases hpop
      exact ⟨above', f' :: s', by rw [Stack.pop], habove, .cons head tail⟩
    | succ count =>
      rw [Stack.pop] at hpop
      rw [Stack.pop, head.tree.isComment_eq]
      split at hpop
      · next hc =>
        rw [if_pos hc]
        exact ih (.cons head.tree habove) hpop
      · next hc =>
        rw [if_neg hc]
        exact ih (.cons head.tree habove) hpop

theorem Reduces.copies {r : Reduction} {s s' kept : Stack} (h : Stack.Copies text text' s s')
    (hr : Reduces r s kept) : ∃ kept', Reduces r s' kept' ∧ Stack.Copies text text' kept kept' := by
  obtain ⟨pop, leads, fill⟩ := hr
  obtain ⟨hcomments, hbare⟩ := h.comments
  obtain ⟨children', rest', hpop, hchildren, hrest⟩ := hbare.pop .nil pop
  rw [← hrest.state_eq] at leads
  have hfill := fill
  rw [Fill, ← hchildren.structural_eq] at hfill
  refine ⟨_, .mk hpop leads hfill, ?_⟩
  exact List.rel_append (hcomments.restated _) (.cons ⟨rfl, .node hchildren⟩ hrest)

/-- Endings that are copies. -/
inductive Ending.Copies (text text' : List Glyph) : Ending → Ending → Prop where
  | pushed {s s' : Stack} (h : Stack.Copies text text' s s') :
      Ending.Copies text text' (.pushed s) (.pushed s')
  | accepted {t t' : Tree} (h : Copy text text' t t') :
      Ending.Copies text text' (.accepted t) (.accepted t')

/-- A branch from a copy makes a copy. -/
theorem Settles.copies {token token' : Token} {s s' : Stack} {e : Ending}
    (h : Stack.Copies text text' s s') (copy : token.Copies text text' token')
    (hs : Settles token s e) : ∃ e', Settles token' s' e' ∧ Ending.Copies text text' e e' := by
  have hkind := copy.kind
  induction hs generalizing s' with
  | pass comment =>
    rw [← hkind] at comment
    exact ⟨_, .pass comment, .pushed (.cons ⟨h.state_eq, .leaf copy⟩ h)⟩
  | shift plain leads =>
    rw [← hkind] at plain
    rw [← hkind, ← h.state_eq] at leads
    exact ⟨_, .shift plain leads, .pushed (.cons ⟨rfl, .leaf copy⟩ h)⟩
  | reduce plain asks reduces _ ih =>
    obtain ⟨kept', hreduces, hkept⟩ := reduces.copies h
    obtain ⟨e', he', hcopies⟩ := ih hkept
    rw [← hkind] at plain
    rw [← hkind, ← h.state_eq] at asks
    exact ⟨e', .reduce plain asks hreduces he', hcopies⟩
  | @accept s upper lower layout children final kind alone above under =>
    subst alone
    have hstate := h.state_eq.trans final
    obtain ⟨upper', rest, rfl, hupper, hrest⟩ := h.exists_append
    obtain ⟨⟨state, tree⟩, lower', ⟨rfl, htree⟩, hlower, rfl⟩ := List.forall₂_cons_left_iff.1 hrest
    cases htree with
    | node below =>
      rw [← hkind] at kind
      refine ⟨_, .accept hstate kind rfl (hupper.isComment above)
        (Stack.Copies.isComment hlower under), .accepted ?_⟩
      exact .node (((Stack.Copies.trees hlower).append below).append hupper.trees)

end Numscript.Parser
