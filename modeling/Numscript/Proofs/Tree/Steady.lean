import Numscript.Proofs.Tree.Shown
import Numscript.Tree.Spot

/-!
# What does not show

In a well-built tree a repetition has neither a field nor an alias, and its own children have no fields.
So what does not show is a repetition, and its children stand in its place without losing a role. A tree
is steady if this holds at every level of it.
-/
namespace Numscript

open Grammar (Item productions unaliased)
open Automaton (Reduction)

/-- A child that does not show has no role, and nothing has a field below what does not show. -/
structure Level.Sound (l : Level) (t : Tree) : Prop where
  bare : t.symbol.isVisible = false → l.field? t = none ∧ l.alias? t = none
  plain : l.phrase.isRepetition = true → l.field? t = none

namespace Tree

/-- A tree that is sound at every level. -/
inductive Steady : Tree → Prop
  | leaf {token : Token} (shows : token.kind.isVisible = true) : Steady (.leaf token)
  | node {phrase : Nonterminal} {layout : Layout} {children : List Tree}
      (roles : ∀ (l : Level) (t : Tree), l.whole t = .node phrase layout children → l.Sound t)
      (below : ∀ c ∈ children, Steady c) : Steady (.node phrase layout children)

theorem items_getElem? (layout : Layout) (place : Nat) (symbols : List Symbol) (i : Nat) :
    (layout.itemsFrom place symbols)[i]? = symbols[i]?.map (layout.item (place + i)) := by
  induction symbols generalizing place i with
  | nil => rfl
  | cons x symbols ih =>
    cases i with
    | zero => rfl
    | succ i => rw [Layout.itemsFrom, List.getElem?_cons_succ, ih, List.getElem?_cons_succ, Nat.add_right_comm]; rfl

theorem field_below_repetition : ∀ n ∈ Nonterminal.all, n.isRepetition = true →
    ∀ p ∈ productions n, ∀ i ∈ p, i.field = none := by
  decide +kernel

/-- The child of a level shows as an item of a production. -/
theorem item_of_level {l : Level} {t : Tree}
    (h : MakesUp l.phrase l.layout (structural (l.before.reverse ++ t :: l.after)))
    (plain : t.isComment = false) :
    ⟨l.symbol t, l.field? t⟩ ∈ l.layout.items (structural (l.before.reverse ++ t :: l.after)) ∧
      unaliased (l.symbol t) = t.symbol := by
  have hplace : (structural l.before.reverse).length = l.place := by
    rw [structural, List.length_map, List.filter_reverse, List.length_reverse, Level.place]
  have hsymbols : (structural (l.before.reverse ++ t :: l.after))[l.place]? = some t.symbol := by
    rw [structural_append, structural_cons plain, ← hplace, List.getElem?_append_right (Nat.le_refl _),
      Nat.sub_self, List.getElem?_cons_zero]
  have hitem : (l.layout.items (structural (l.before.reverse ++ t :: l.after)))[l.place]? =
      some ⟨l.symbol t, l.field? t⟩ := by
    rw [Layout.items, items_getElem?, hsymbols, Nat.zero_add, Level.symbol, Level.alias?, Level.field?,
      if_neg (by simp [plain]), if_neg (by simp [plain])]
    rfl
  refine ⟨List.mem_of_getElem? hitem, ?_⟩
  have hchild := congrArg (·[l.place]?) h.children
  simp only [Reduction.children, List.getElem?_map, hitem, hsymbols, Option.map_some,
    Option.some.injEq] at hchild
  exact hchild

theorem sound_of_makesUp {l : Level} {t : Tree} (steady : t.Steady)
    (h : MakesUp l.phrase l.layout (structural (l.before.reverse ++ t :: l.after))) : l.Sound t := by
  by_cases hcomment : t.isComment = true
  · have hfield : l.field? t = none := if_pos hcomment
    exact ⟨fun _ => ⟨hfield, if_pos hcomment⟩, fun _ => hfield⟩
  obtain ⟨hitem, hshows⟩ := item_of_level h (by simpa using hcomment)
  refine ⟨fun hidden => ?_, fun hrepetition =>
    field_below_repetition _ (Nonterminal.mem_all _) hrepetition _ h.items _ hitem⟩
  cases steady with
  | leaf shows => exact absurd (shows.symm.trans hidden) (by decide)
  | @node phrase layout children _ _ =>
    have hrepetition : phrase.isRepetition = true := by simpa [symbol, Symbol.isVisible] using hidden
    have hnone : l.alias? (.node phrase layout children) = none := by
      cases halias : l.alias? (.node phrase layout children) with
      | none => rfl
      | some a =>
        rw [Level.symbol, shownSymbol, halias] at hshows
        exact absurd (isRepetition_of_unaliased hshows) (by simp [hrepetition])
    have hsymbol : l.symbol (.node phrase layout children) = .nonterminal phrase := by
      rw [Level.symbol, hnone]
      rfl
    rw [hsymbol] at hitem
    exact ⟨h.fitting.2 _ hitem hrepetition, hnone⟩

theorem Built.steady {text : List Glyph} {t : Tree} (h : t.Built text) : t.Steady := by
  induction h with
  | @leaf token spans =>
    obtain ⟨_, _, _, _, hlexeme, _⟩ := spans
    refine .leaf (decide_eq_true fun hkind => ?_)
    rw [hkind] at hlexeme
    exact Lexer.not_isLexeme_endOfText hlexeme
  | @node phrase layout children makes _ ih =>
    refine .node (fun l t hwhole => ?_) ih
    obtain ⟨lphrase, llayout, before, after⟩ := l
    obtain ⟨rfl, rfl, rfl⟩ := Tree.node.inj hwhole
    exact sound_of_makesUp (ih t (by simp)) makes

end Tree
end Numscript
