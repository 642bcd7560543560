import Numscript.Proofs.Tree.Position
import Numscript.Proofs.Tree.Steady

/-!
# Moves over the stored tree

What a spot shows moves as the spot does: every move over the stored tree, with its repetitions inside one
another and comments at any depth, leads to what the same move leads to in the tree that shows. The
repetitions around a tree are levels that show nothing of their own, so what stands in them is counted and
searched together with what stands around them (`around_around`).
-/
namespace Numscript

open Numscript.Tree (nodesFrom Steady)

namespace Level

variable {l : Level} {t : Tree}

theorem nodesFrom_append (layout : Layout) (place : Nat) (a b : List Tree) :
    nodesFrom layout place (a ++ b) = nodesFrom layout place a ++
      nodesFrom layout (place + (a.filter fun t => !t.isComment).length) b := by
  induction a generalizing place with
  | nil => rfl
  | cons t a ih =>
    rw [List.cons_append, nodesFrom, nodesFrom]
    cases hcomment : t.isComment with
    | true => simp [hcomment, ih]
    | false => simp [hcomment, ih, Nat.add_assoc, Nat.add_comm 1]

/-- The nodes of a child in its place. -/
def nodes (l : Level) (t : Tree) : List Node := t.nodes (l.field? t) (l.alias? t)

theorem nodesFrom_cons (t : Tree) (rest : List Tree) :
    nodesFrom l.layout l.place (t :: rest) =
      l.nodes t ++ nodesFrom l.layout (l.nextPlace t) rest := by
  rw [nodesFrom, nodes, field?, alias?, nextPlace]
  cases t.isComment <;> rfl

/-- The level of the sibling behind a child. -/
theorem place_cons (before after rest : List Tree) (phrase : Nonterminal) (layout : Layout) (t : Tree) :
    (⟨phrase, layout, t :: before, after⟩ : Level).place =
      (⟨phrase, layout, before, rest⟩ : Level).nextPlace t := by
  rw [place, nextPlace, place]
  cases hcomment : t.isComment <;> simp [hcomment]

theorem nodesBefore_cons (before after rest : List Tree) (phrase : Nonterminal) (layout : Layout)
    (t : Tree) : (⟨phrase, layout, t :: before, after⟩ : Level).nodesBefore =
      (⟨phrase, layout, before, rest⟩ : Level).nodesBefore ++
        (⟨phrase, layout, before, rest⟩ : Level).nodes t := by
  have hplace : (before.reverse.filter fun t => !t.isComment).length =
      (⟨phrase, layout, before, rest⟩ : Level).place := by
    rw [List.filter_reverse, List.length_reverse, place]
  rw [nodesBefore, nodesBefore, List.reverse_cons, nodesFrom_append, Nat.zero_add, hplace]
  change _ ++ nodesFrom (⟨phrase, layout, before, rest⟩ : Level).layout _ [t] = _
  rw [nodesFrom_cons, nodesFrom, List.append_nil]

theorem nodesFrom_whole : nodesFrom l.layout 0 (l.before.reverse ++ t :: l.after) =
    l.nodesBefore ++ (l.nodes t ++ l.nodesAfter t) := by
  have hplace : (l.before.reverse.filter fun t => !t.isComment).length = l.place := by
    rw [List.filter_reverse, List.length_reverse, place]
  rw [nodesFrom_append, Nat.zero_add, hplace, nodesFrom_cons]
  rfl

end Level

namespace Tree

/-- The nodes below a tree. -/
def inner : Tree → List Node
  | .leaf _ => []
  | .node _ layout children => nodesFrom layout 0 children

end Tree

namespace Spot

open Position (seek seek_eq_none seek_inside seek_skip seek_zero seek_succ seek_over seek_within seek_beyond seek_last seek_append)

variable {E : Point} {t : Tree} {l : Level} {trail : List Level}

theorem symbol_nodeIn (t : Tree) (l : Level) (trail : List Level) :
    (nodeIn E t (l :: trail)).symbol = l.symbol t := by
  cases t <;> rfl

theorem label_children_nodeIn (t : Tree) (trail : List Level) :
    nodeIn E t trail = .mk (nodeIn E t trail).label t.inner := by
  cases trail <;> cases t <;> rfl

theorem nodes_of_shown (trail : List Level) (sound : l.Sound t) (shows : (l.symbol t).isVisible = true) :
    l.nodes t = [nodeIn E t (l :: trail)] := by
  cases t with
  | leaf token => rfl
  | node phrase layout children =>
    cases hrepetition : phrase.isRepetition with
    | false => exact Tree.nodes_of_lasting hrepetition layout children _ _
    | true =>
      have hhidden : (Tree.node phrase layout children).symbol.isVisible = false := by
        simp [Tree.symbol, Symbol.isVisible, hrepetition]
      rw [Level.symbol, Tree.shownSymbol, (sound.bare hhidden).2] at shows
      exact absurd (shows.symm.trans hhidden) (by decide)

/-- What does not show is a repetition, and the nodes below it stand in its place. -/
theorem nodes_of_hidden (steady : t.Steady) (hidden : (l.symbol t).isVisible = false) :
    l.nodes t = t.inner ∧ t.symbol.isVisible = false := by
  rw [Level.symbol, Tree.shownSymbol] at hidden
  cases halias : l.alias? t with
  | some a => simp [halias, Symbol.isVisible] at hidden
  | none =>
    simp only [halias, Option.map_none, Option.getD_none] at hidden
    cases steady with
    | leaf shows => exact absurd (shows.symm.trans hidden) (by decide)
    | @node phrase layout children _ _ =>
      have hrepetition : phrase.isRepetition = true := by
        simpa [Tree.symbol, Symbol.isVisible] using hidden
      exact ⟨Tree.nodes_of_repetition hrepetition layout children _ _, hidden⟩

/-- A tree stands below some levels of a steady program. -/
def Stands (t : Tree) : List Level → Prop
  | [] => t.Steady ∧ t.symbol = .nonterminal .program
  | l :: trail => Stands (l.whole t) trail

theorem Stands.steady (h : Stands t trail) : t.Steady := by
  induction trail generalizing t with
  | nil => exact h.1
  | cons l trail ih =>
    cases ih h with
    | node _ below => exact below t (by simp)

theorem Stands.sound (h : Stands t (l :: trail)) : l.Sound t := by
  have hsteady := Stands.steady (t := l.whole t) h
  cases hsteady with
  | node roles _ => exact roles l t rfl

/-- The phrase above a child, divided behind the child. -/
theorem whole_behind (l : Level) (t : Tree) :
    .node l.phrase l.layout ((t :: l.before).reverse ++ l.after) = l.whole t := by
  rw [Level.whole, List.reverse_cons, List.append_assoc, List.singleton_append]

theorem Stands.behind (h : Stands t (l :: trail)) :
    Stands (.node l.phrase l.layout ((t :: l.before).reverse ++ l.after)) trail :=
  whole_behind l t ▸ h

/-- A node found below a tree, between the nodes before and after it. -/
def below (E : Point) (t : Tree) (trail : List Level) (found : List Node × Node × List Node) : Position :=
  ⟨found.2.1, around E t trail (branches E t trail) found.1 found.2.2⟩

/-- A search behind a child passes over the nodes of the child. -/
theorem seek_behind (wanted : Node → Bool) (l : Level) (t : Tree) (i : Nat) :
    (seek wanted (⟨l.phrase, l.layout, t :: l.before, l.after⟩ : Level).nodesBefore.reverse i
      (nodesFrom l.layout (⟨l.phrase, l.layout, t :: l.before, l.after⟩ : Level).place l.after)).map
        (below E (.node l.phrase l.layout ((t :: l.before).reverse ++ l.after)) trail) =
      (seek wanted ((l.nodes t).reverse ++ l.nodesBefore.reverse) i (l.nodesAfter t)).map
        (below E (l.whole t) trail) := by
  rw [whole_behind, Level.nodesBefore_cons l.before l.after l.after, List.reverse_append,
    Level.place_cons l.before l.after l.after]
  rfl

theorem around_shown (shows : (symbolIn t trail).isVisible = true) (outer : List Branch)
    (before after : List Node) : around E t trail outer before after =
      ⟨(nodeIn E t trail).label, before, after⟩ :: outer :=
  if_pos shows

theorem around_hidden (hidden : (symbolIn t trail).isVisible = false) (b : Branch)
    (outer : List Branch) (before after : List Node) : around E t trail (b :: outer) before after =
      ⟨b.parent, before ++ b.before, after ++ b.after⟩ :: outer :=
  if_neg (by simp [hidden])

theorem around_root (hidden : (symbolIn t trail).isVisible = false) (before after : List Node) :
    around E t trail [] before after = [] :=
  if_neg (by simp [hidden])

/-- Where a tree does not show, what stands between its nodes stands among the nodes around it. -/
theorem around_around {u : Tree} {above : List Level} (hidden : (symbolIn t trail).isVisible = false)
    (outer : List Branch) (before after before' after' : List Node) :
    around E t trail (around E u above outer before after) before' after' =
      around E u above outer (before' ++ before) (after' ++ after) := by
  cases hshows : (symbolIn u above).isVisible with
  | true => rw [around_shown hshows, around_hidden hidden, around_shown hshows]
  | false =>
    cases outer with
    | nil => rw [around_root hshows, around_root hidden, around_root hshows]
    | cons b outer =>
      rw [around_hidden hshows, around_hidden hidden, around_hidden hshows, List.append_assoc,
        List.append_assoc]

/-- Every phrase that shows is named. -/
theorem isNamed_of_phrase {phrase : Nonterminal} {layout : Layout} {children : List Tree}
    (shows : (l.symbol (.node phrase layout children)).isVisible = true) :
    (l.symbol (.node phrase layout children)).isNamed = true := by
  rw [Level.symbol, Tree.shownSymbol] at shows ⊢
  cases halias : l.alias? (.node phrase layout children) with
  | some a => rfl
  | none =>
    rw [halias] at shows
    exact shows

theorem eq_leaf_of_not_counts {named : Bool} (shows : (l.symbol t).isVisible = true)
    (uncounted : (l.symbol t).counts named = false) : ∃ token, t = .leaf token := by
  cases t with
  | leaf token => exact ⟨token, rfl⟩
  | node phrase layout children =>
    simp [Symbol.counts, shows, isNamed_of_phrase shows] at uncounted

section
variable {named : Bool} {wanted : Node → Bool}

theorem wanted_nodeIn (agrees : ∀ n : Node, n.symbol.isVisible = true → wanted n = n.symbol.counts named)
    (trail : List Level) (shows : (l.symbol t).isVisible = true) :
    wanted (nodeIn E t (l :: trail)) = (l.symbol t).counts named := by
  have hsymbol := symbol_nodeIn (E := E) t l trail
  rw [agrees _ (hsymbol ▸ shows), hsymbol]

mutual

/-- The children that count below a tree are the nodes below it that count. -/
theorem countBelow_eq (agrees : ∀ n : Node, n.symbol.isVisible = true → wanted n = n.symbol.counts named) :
    (t : Tree) → t.Steady → t.countBelow named = t.inner.countP wanted
  | .leaf _, _ => rfl
  | .node phrase layout children, steady =>
    countFrom_eq agrees phrase layout [] [] children (by simpa using steady)

theorem countFrom_eq (agrees : ∀ n : Node, n.symbol.isVisible = true → wanted n = n.symbol.counts named)
    (phrase : Nonterminal) (layout : Layout) (before more : List Tree) :
    (rest : List Tree) → (Tree.node phrase layout (before.reverse ++ (rest ++ more))).Steady →
      Tree.countFrom named phrase layout before rest =
        (nodesFrom layout (⟨phrase, layout, before, rest⟩ : Level).place rest).countP wanted
  | [], _ => rfl
  | t :: rest, steady => by
    have hlater := countFrom_eq agrees phrase layout (t :: before) more rest (by simpa using steady)
    obtain _ | ⟨roles, below⟩ := steady
    have hsteady : t.Steady := below t (by simp)
    obtain ⟨bare, plain⟩ := roles ⟨phrase, layout, before, rest ++ more⟩ t rfl
    have hsound : (⟨phrase, layout, before, rest⟩ : Level).Sound t := ⟨bare, plain⟩
    have hnodes : (if ((⟨phrase, layout, before, rest⟩ : Level).symbol t).counts named then 1
        else t.countBelow named) =
          ((⟨phrase, layout, before, rest⟩ : Level).nodes t).countP wanted := by
      cases hshows : ((⟨phrase, layout, before, rest⟩ : Level).symbol t).isVisible with
      | true =>
        have hnode := nodes_of_shown (E := .origin) [] hsound hshows
        rw [hnode, List.countP_singleton, wanted_nodeIn agrees [] hshows]
        split
        · rfl
        · next hcounts =>
          obtain ⟨token, rfl⟩ := eq_leaf_of_not_counts hshows (by simpa using hcounts)
          rfl
      | false =>
        rw [if_neg (by simp [Symbol.counts, hshows]), (nodes_of_hidden hsteady hshows).1]
        exact countBelow_eq agrees t hsteady
    rw [Tree.countFrom, hnodes, hlater, Level.place_cons before rest rest, ← List.countP_append]
    exact congrArg _ (Level.nodesFrom_cons t rest).symm

end

mutual

/-- The child that is found below a tree shows as the node that is found below it. -/
theorem childBelow?_position
    (agrees : ∀ n : Node, n.symbol.isVisible = true → wanted n = n.symbol.counts named) (i : Nat) :
    (t : Tree) → (trail : List Level) → Stands t trail →
      (childBelow? named i t trail).map (position E) = (seek wanted [] i t.inner).map (below E t trail)
  | .leaf _, _, _ => rfl
  | .node phrase layout children, trail, stands =>
    childFrom?_position agrees phrase layout trail [] i children stands

theorem childFrom?_position
    (agrees : ∀ n : Node, n.symbol.isVisible = true → wanted n = n.symbol.counts named)
    (phrase : Nonterminal) (layout : Layout) (trail : List Level) (before : List Tree) (i : Nat) :
    (rest : List Tree) → Stands (.node phrase layout (before.reverse ++ rest)) trail →
      (childFrom? named phrase layout trail before i rest).map (position E) =
        (seek wanted (⟨phrase, layout, before, rest⟩ : Level).nodesBefore.reverse i
          (nodesFrom layout (⟨phrase, layout, before, rest⟩ : Level).place rest)).map
            (below E (.node phrase layout (before.reverse ++ rest)) trail)
  | [], _ => by rw [childFrom?, nodesFrom]; rfl
  | t :: rest, stands => by
    -- the level of `t`: the tree above is `l.whole t`, and `t` stands below it
    let l : Level := ⟨phrase, layout, before, rest⟩
    have hstands : Stands t (l :: trail) := stands
    have hlater : ∀ j, (childFrom? named phrase layout trail (t :: before) j rest).map (position E) =
        (seek wanted ((l.nodes t).reverse ++ l.nodesBefore.reverse) j (l.nodesAfter t)).map
          (below E (l.whole t) trail) := fun j =>
      (childFrom?_position agrees phrase layout trail (t :: before) j rest hstands.behind).trans
        (seek_behind wanted l t j)
    have hnodes : nodesFrom layout l.place (t :: rest) = l.nodes t ++ l.nodesAfter t :=
      Level.nodesFrom_cons (l := l) t rest
    change _ = (seek wanted l.nodesBefore.reverse i (nodesFrom layout l.place (t :: rest))).map
      (below E (l.whole t) trail)
    rw [childFrom?, hnodes]
    cases hshows : (l.symbol t).isVisible with
    | true =>
      have hwanted := wanted_nodeIn (E := E) agrees trail hshows
      rw [nodes_of_shown (E := E) trail hstands.sound hshows] at hlater ⊢
      rw [List.singleton_append]
      cases hcounts : (l.symbol t).counts named with
      | true =>
        rw [hcounts] at hwanted
        rw [if_pos rfl]
        cases i with
        | zero => rw [if_pos rfl, seek_zero hwanted]; rfl
        | succ i => rw [if_neg (Nat.succ_ne_zero i), seek_succ hwanted]; exact hlater i
      | false =>
        rw [hcounts] at hwanted
        obtain ⟨token, rfl⟩ := eq_leaf_of_not_counts hshows hcounts
        rw [if_neg Bool.false_ne_true, seek_skip hwanted, Tree.countBelow, if_neg (Nat.not_lt_zero i)]
        exact hlater i
    | false =>
      have hhidden : (symbolIn t (l :: trail)).isVisible = false := hshows
      obtain ⟨hinner, _⟩ := nodes_of_hidden hstands.steady hshows
      have hcount := countBelow_eq agrees t hstands.steady
      rw [if_neg (by simp [Symbol.counts, hshows, l]), hinner, hcount]
      split
      · next hlt =>
        have hbelow := childBelow?_position agrees i t (l :: trail) hstands
        rw [seek_within hlt, seek_over, hbelow, Option.map_map, Option.map_map]
        refine congrArg (Option.map · _) (funext fun r => ?_)
        exact congrArg (Position.mk r.2.1) (around_around hhidden _ _ _ _ _)
      · next hle =>
        rw [seek_beyond (Nat.le_of_not_lt hle), ← hinner]
        exact hlater _

end

/-- The nodes a tree shows below some levels. -/
def nodesIn (E : Point) (t : Tree) : List Level → List Node
  | [] => [nodeIn E t []]
  | l :: _ => l.nodes t

theorem Stands.nodesIn_eq (h : Stands t trail) (shows : (symbolIn t trail).isVisible = true) :
    nodesIn E t trail = [nodeIn E t trail] := by
  cases trail with
  | nil => rfl
  | cons l trail => exact nodes_of_shown trail h.sound shows

theorem Stands.nodesIn_hidden (h : Stands t trail) (hidden : (symbolIn t trail).isVisible = false) :
    nodesIn E t trail = t.inner := by
  cases trail with
  | nil =>
    rw [symbolIn, h.2] at hidden
    cases hidden
  | cons l trail => exact (nodes_of_hidden h.steady hidden).1

theorem inner_whole (l : Level) (t : Tree) :
    (l.whole t).inner = l.nodesBefore ++ (l.nodes t ++ l.nodesAfter t) :=
  Level.nodesFrom_whole

/-- The nearest tree above that shows is the parent of what a tree shows. -/
theorem above?_position (h : Stands t trail) : (above? t trail).map (position E) =
    match branches E t trail with
    | [] => none
    | s :: outer => some ⟨.mk s.parent (s.before.reverse ++ (nodesIn E t trail ++ s.after)), outer⟩ := by
  induction trail generalizing t with
  | nil => rfl
  | cons l trail ih =>
    have hup : Stands (l.whole t) trail := h
    rw [above?, branches]
    cases hshows : (symbolIn (l.whole t) trail).isVisible with
    | true =>
      rw [if_pos rfl, around_shown hshows]
      simp only [Option.map_some, List.reverse_reverse, nodesIn]
      rw [← inner_whole, ← label_children_nodeIn]
      rfl
    | false =>
      rw [if_neg Bool.false_ne_true, ih hup, hup.nodesIn_hidden hshows, inner_whole]
      cases branches E (l.whole t) trail with
      | nil => rw [around_root hshows]
      | cons s outer =>
        rw [around_hidden hshows]
        simp [nodesIn]

/-- Among the siblings behind a tree, the one that is found shows as the node that is found there. -/
theorem childAfter?_position
    (agrees : ∀ n : Node, n.symbol.isVisible = true → wanted n = n.symbol.counts named)
    (h : Stands t (l :: trail)) :
    (childFrom? named l.phrase l.layout trail (t :: l.before) 0 l.after).map (position E) =
      (seek wanted ((l.nodes t).reverse ++ l.nodesBefore.reverse) 0 (l.nodesAfter t)).map
        (below E (l.whole t) trail) :=
  (childFrom?_position agrees l.phrase l.layout trail (t :: l.before) 0 l.after h.behind).trans
    (seek_behind wanted l t 0)

theorem Stands.exists_branch (h : Stands t (l :: trail)) :
    ∃ s outer, branches E t (l :: trail) = s :: outer := by
  induction trail generalizing t l with
  | nil =>
    have hshows : (symbolIn (l.whole t) []).isVisible = true := by
      rw [symbolIn, h.2]
      rfl
    exact ⟨_, _, around_shown hshows _ _ _⟩
  | cons l' trail ih =>
    rw [branches]
    cases hshows : (symbolIn (l.whole t) (l' :: trail)).isVisible with
    | true => exact ⟨_, _, around_shown hshows _ _ _⟩
    | false =>
      obtain ⟨s, outer, hbranch⟩ := ih h
      rw [hbranch]
      exact ⟨_, _, around_hidden hshows _ _ _ _⟩

/-- Where the phrase above does not show, the nodes of a child stand among those around the phrase. -/
theorem Stands.exists_outer (h : Stands t (l :: trail))
    (hidden : (symbolIn (l.whole t) trail).isVisible = false) :
    ∃ s outer, branches E (l.whole t) trail = s :: outer ∧ branches E t (l :: trail) =
      ⟨s.parent, l.nodesBefore.reverse ++ s.before, l.nodesAfter t ++ s.after⟩ :: outer := by
  cases trail with
  | nil =>
    rw [symbolIn, h.2] at hidden
    cases hidden
  | cons l' trail =>
    obtain ⟨s, outer, hbranch⟩ := Stands.exists_branch (E := E) (t := l.whole t) h
    refine ⟨s, outer, hbranch, ?_⟩
    rw [branches, hbranch, around_hidden hidden]

/-- What is found beside a tree takes its place among the nodes below the same parent. -/
def beside (parent : Label) (outer : List Branch) (found : List Node × Node × List Node) : Position :=
  ⟨found.2.1, ⟨parent, found.1, found.2.2⟩ :: outer⟩

theorem below_shown (shows : (symbolIn t trail).isVisible = true) :
    below E t trail = beside (nodeIn E t trail).label (branches E t trail) :=
  funext fun r => congrArg (Position.mk r.2.1) (around_shown shows _ _ _)

theorem below_hidden (hidden : (symbolIn t trail).isVisible = false) {s : Branch} {outer : List Branch}
    (hbranch : branches E t trail = s :: outer) : below E t trail = fun r =>
      beside s.parent outer (r.1 ++ s.before, r.2.1, r.2.2 ++ s.after) := by
  funext r
  rw [below, hbranch, around_hidden hidden]
  rfl

/-- The next sibling over the stored tree is the one among the nodes. -/
theorem behind?_position
    (agrees : ∀ n : Node, n.symbol.isVisible = true → wanted n = n.symbol.counts named)
    (h : Stands t trail) : (behind? named t trail).map (position E) =
      match branches E t trail with
      | [] => none
      | s :: outer =>
        (seek wanted ((nodesIn E t trail).reverse ++ s.before) 0 s.after).map (beside s.parent outer) := by
  induction trail generalizing t with
  | nil => rfl
  | cons l trail ih =>
    have hfrom := childAfter?_position (E := E) agrees h
    rw [behind?]
    cases hshows : (symbolIn (l.whole t) trail).isVisible with
    | true =>
      rw [branches, around_shown hshows]
      rw [below_shown hshows] at hfrom
      simp only [nodesIn]
      rw [← hfrom]
      cases childFrom? named l.phrase l.layout trail (t :: l.before) 0 l.after <;> rfl
    | false =>
      obtain ⟨s, outer, hbranch, hbranches⟩ := h.exists_outer (E := E) hshows
      have hup := ih (t := l.whole t) h
      rw [hbranch, Stands.nodesIn_hidden (t := l.whole t) h hshows, inner_whole] at hup
      rw [below_hidden hshows hbranch] at hfrom
      rw [hbranches]
      simp only [nodesIn]
      cases hfound : childFrom? named l.phrase l.layout trail (t :: l.before) 0 l.after with
      | some found =>
        rw [hfound] at hfrom
        have hsome : ¬ (l.nodesAfter t).countP wanted ≤ 0 := fun hle => by
          rw [seek_eq_none.2 hle] at hfrom
          cases hfrom
        rw [← List.append_assoc, seek_inside (Nat.lt_of_not_le hsome), Option.map_map]
        exact hfrom
      | none =>
        rw [hfound] at hfrom
        have hnone := seek_eq_none.1 (Option.map_eq_none_iff.1 hfrom.symm)
        rw [seek_beyond hnone]
        simp only
        rw [if_neg Bool.false_ne_true, hup, Nat.zero_sub]
        simp only [List.reverse_append, List.append_assoc]

/-- The siblings that count before a tree are the nodes before it that count. -/
theorem countBefore_eq
    (agrees : ∀ n : Node, n.symbol.isVisible = true → wanted n = n.symbol.counts named)
    (h : Stands t (l :: trail)) : Tree.countFrom named l.phrase l.layout [] l.before.reverse =
      l.nodesBefore.reverse.countP wanted := by
  have hsteady := Stands.steady (t := l.whole t) h
  rw [List.countP_reverse]
  exact countFrom_eq agrees l.phrase l.layout [] (t :: l.after) l.before.reverse hsteady

/-- The last sibling before a tree over the stored tree is the one among the nodes. -/
theorem ahead?_position
    (agrees : ∀ n : Node, n.symbol.isVisible = true → wanted n = n.symbol.counts named)
    (h : Stands t trail) : (ahead? named t trail).map (position E) =
      match branches E t trail with
      | [] => none
      | s :: outer => (seek wanted (nodesIn E t trail ++ s.after) 0 s.before).map fun r =>
          beside s.parent outer (r.2.2, r.2.1, r.1) := by
  induction trail generalizing t with
  | nil => rfl
  | cons l trail ih =>
    rw [ahead?]
    cases hcount : Tree.countFrom named l.phrase l.layout [] l.before.reverse with
    | zero =>
      have hnone := Nat.le_of_eq ((countBefore_eq agrees h).symm.trans hcount)
      simp only
      cases hshows : (symbolIn (l.whole t) trail).isVisible with
      | true =>
        rw [branches, around_shown hshows]
        simp only
        rw [seek_eq_none.2 hnone]
        rfl
      | false =>
        obtain ⟨s, outer, hbranch, hbranches⟩ := h.exists_outer (E := E) hshows
        have hup := ih (t := l.whole t) h
        rw [hbranch, Stands.nodesIn_hidden (t := l.whole t) h hshows, inner_whole] at hup
        rw [hbranches, if_neg Bool.false_ne_true, hup]
        simp only [nodesIn]
        rw [seek_beyond hnone, Nat.zero_sub, List.reverse_reverse, List.append_assoc, List.append_assoc]
    | succ i =>
      have hsome := (countBefore_eq agrees h).symm.trans hcount
      have hbelow := childBelow?_position (E := E) agrees i (l.whole t) trail h
      rw [inner_whole, ← List.reverse_reverse l.nodesBefore, seek_last hsome, Option.map_map] at hbelow
      simp only [hbelow]
      cases hshows : (symbolIn (l.whole t) trail).isVisible with
      | true =>
        rw [branches, around_shown hshows, below_shown hshows]
        rfl
      | false =>
        obtain ⟨s, outer, hbranch, hbranches⟩ := h.exists_outer (E := E) hshows
        rw [hbranches, below_hidden hshows hbranch]
        simp only [nodesIn]
        rw [← List.append_assoc, seek_inside (hsome ▸ Nat.succ_pos i), Option.map_map]
        rfl

end

end Spot
end Numscript
