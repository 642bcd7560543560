import Numscript.Proofs.Packed.Agreement
import Numscript.Proofs.Tree.Spot
import Numscript.Tree.Numbering

/-!
# What a spot shows moves with it

The child with a field is looked up by the place of the field in the production, and it is the node that has
the field. With the other moves, all moves over the stored tree are moves over the nodes (`go?_position`), so a
walk over the one is a walk over the other (`position_along`).
-/
namespace Numscript

open Numscript.Tree (nodesFrom Steady)

namespace Level

/-- A node below a phrase shows for one of its children. -/
theorem exists_nodes (phrase : Nonterminal) {layout : Layout} {n : Node} {rest : List Tree} :
    ∀ before, n ∈ nodesFrom layout (⟨phrase, layout, before, rest⟩ : Level).place rest →
      ∃ (l : Level) (t : Tree), l.whole t = .node phrase layout (before.reverse ++ rest) ∧ n ∈ l.nodes t := by
  induction rest with
  | nil => exact fun _ h => absurd h List.not_mem_nil
  | cons t rest ih =>
    intro before h
    have hnodes := nodesFrom_cons (l := ⟨phrase, layout, before, rest⟩) t rest
    rcases List.mem_append.1 (hnodes ▸ h) with hn | hn
    · exact ⟨⟨phrase, layout, before, rest⟩, t, rfl, hn⟩
    · rw [← place_cons before rest rest] at hn
      obtain ⟨l, c, hwhole, hc⟩ := ih (t :: before) hn
      exact ⟨l, c, by simpa using hwhole, hc⟩

end Level

namespace Spot

open Position (seek seek_eq_none seek_append seek_zero)

variable {E : Point} {t : Tree} {l : Level} {trail : List Level} {f : Field}

theorem field_nodeIn (t : Tree) (l : Level) (trail : List Level) :
    (nodeIn E t (l :: trail)).field = l.field? t := by
  cases t <;> rfl

theorem field_inner (steady : t.Steady) (hidden : t.symbol.isVisible = false) :
    ∀ n ∈ t.inner, n.field = none := by
  induction steady with
  | leaf shows => exact absurd (shows.symm.trans hidden) (by decide)
  | @node phrase layout children roles below ih =>
    intro n hn
    obtain ⟨l, c, hwhole, hn⟩ := Level.exists_nodes phrase [] hn
    have hsound := roles l c hwhole
    obtain ⟨hphrase, -, hchildren⟩ := Tree.node.inj hwhole
    have hmem : c ∈ ([] : List Tree).reverse ++ children := hchildren ▸ by simp
    cases hshows : (l.symbol c).isVisible with
    | true =>
      have hrepetition : l.phrase.isRepetition = true := by
        simpa [hphrase, Tree.symbol, Symbol.isVisible] using hidden
      rw [nodes_of_shown (E := .origin) [] hsound hshows, List.mem_singleton] at hn
      rw [hn, field_nodeIn, hsound.plain hrepetition]
    | false =>
      obtain ⟨hinner, hhidden⟩ := nodes_of_hidden (below c hmem) hshows
      exact ih c hmem hhidden n (hinner ▸ hn)

theorem field_nodes (steady : t.Steady) (sound : l.Sound t) {n : Node} (hn : n ∈ l.nodes t)
    (h : n.field = some f) : l.field? t = some f := by
  cases hshows : (l.symbol t).isVisible with
  | true =>
    rw [nodes_of_shown (E := .origin) [] sound hshows, List.mem_singleton] at hn
    rw [← h, hn, field_nodeIn]
  | false =>
    obtain ⟨hinner, hhidden⟩ := nodes_of_hidden steady hshows
    rw [field_inner steady hhidden n (hinner ▸ hn)] at h
    cases h

theorem shows_of_field? (steady : t.Steady) (sound : l.Sound t) (h : l.field? t = some f) :
    (l.symbol t).isVisible = true := by
  cases hshows : (l.symbol t).isVisible with
  | true => rfl
  | false =>
    rw [(sound.bare (nodes_of_hidden steady hshows).2).1] at h
    cases h

/-- The child at the only place of a field shows as the node with that field. -/
theorem placeFrom?_position {place : Nat} {phrase : Nonterminal} {layout : Layout}
    (only : ∀ p, layout.field? p = some f ↔ p = place) {rest : List Tree} :
    ∀ before, (⟨phrase, layout, before, rest⟩ : Level).place ≤ place →
      Stands (.node phrase layout (before.reverse ++ rest)) trail →
      (placeFrom? place phrase layout trail before rest).map (position E) =
        (seek (fun n => n.field = some f) (⟨phrase, layout, before, rest⟩ : Level).nodesBefore.reverse 0
          (nodesFrom layout (⟨phrase, layout, before, rest⟩ : Level).place rest)).map
            (below E (.node phrase layout (before.reverse ++ rest)) trail) := by
  induction rest with
  | nil =>
    intro before _ _
    rw [placeFrom?, nodesFrom]
    rfl
  | cons t rest ih =>
    intro before hle stands
    let l : Level := ⟨phrase, layout, before, rest⟩
    have hstands : Stands t (l :: trail) := stands
    have hplace : l.place ≤ place := hle
    have hnodes : nodesFrom layout l.place (t :: rest) = l.nodes t ++ l.nodesAfter t :=
      Level.nodesFrom_cons (l := l) t rest
    change _ = (seek _ l.nodesBefore.reverse 0 (nodesFrom layout l.place (t :: rest))).map
      (below E (l.whole t) trail)
    rw [placeFrom?, hnodes]
    cases hskip : t.isComment || decide (l.place < place) with
    | true =>
      have hnot : l.field? t ≠ some f := by
        rw [Level.field?]
        split
        · simp
        · next hcomment =>
          have hlt : l.place < place := by simpa [hcomment] using hskip
          exact fun h => absurd ((only _).1 h) (Nat.ne_of_lt hlt)
      have hnone : ∀ n ∈ l.nodes t, decide (n.field = some f) = false := fun n hn =>
        decide_eq_false fun h => hnot (field_nodes hstands.steady hstands.sound hn h)
      have hnext : (⟨phrase, layout, t :: before, rest⟩ : Level).place ≤ place := by
        rw [Level.place_cons before rest rest, Level.nextPlace]
        split
        · exact hplace
        · next hcomment =>
          have hlt : l.place < place := by simpa [hcomment] using hskip
          exact hlt
      rw [if_pos rfl, seek_append hnone]
      exact (ih (t :: before) hnext hstands.behind).trans (seek_behind _ l t 0)
    | false =>
      rw [Bool.or_eq_false_iff, decide_eq_false_iff_not] at hskip
      have hfield : l.field? t = some f := by
        rw [Level.field?, hskip.1, if_neg Bool.false_ne_true]
        exact (only _).2 (by omega)
      have hshows := shows_of_field? hstands.steady hstands.sound hfield
      have hwanted : decide ((nodeIn E t (l :: trail)).field = some f) = true :=
        decide_eq_true ((field_nodeIn t l trail).trans hfield)
      rw [if_neg Bool.false_ne_true, if_pos hshows, nodes_of_shown (E := E) trail hstands.sound hshows,
        List.singleton_append, seek_zero hwanted]
      rfl

theorem index_inj : ∀ f ∈ Field.all, ∀ g ∈ Field.all, f.index = g.index → f = g := by
  decide

theorem field?_inj : ∀ l ∈ Layout.all, ∀ p < l.reach, ∀ p' < l.reach, l.field? p ≠ none →
    l.field? p = l.field? p' → p = p' := by
  decide

theorem eq_of_field? {layout : Layout} {p p' : Nat} (h : layout.field? p = some f)
    (h' : layout.field? p' = some f) : p = p' :=
  field?_inj layout (Layout.mem_all layout) p (Layout.lt_reach_of_field? h) p' (Layout.lt_reach_of_field? h')
    (by simp [h]) (h.trans h'.symm)

/-- The entries of a production tell the only place of a field. -/
theorem place_of_lookup {layout : Layout} {place : Nat}
    (h : (Packed.fields? layout.index).bind (·.lookup f.index) = some place) (p : Nat) :
    layout.field? p = some f ↔ p = place := by
  obtain ⟨entries, hentries, hmem⟩ := Packed.fields?_layout layout
  rw [hentries, Option.bind_some] at h
  obtain ⟨g, hindex, hfield⟩ := (hmem _).1 (Automaton.mem_of_lookup h)
  obtain rfl := index_inj g (Field.mem_all g) f (Field.mem_all f) hindex
  exact ⟨fun hp => eq_of_field? hp hfield, fun hp => hp ▸ hfield⟩

/-- Without an entry, no place of a production has the field. -/
theorem field?_of_lookup_none {layout : Layout}
    (h : (Packed.fields? layout.index).bind (·.lookup f.index) = none) (p : Nat) :
    layout.field? p ≠ some f := by
  obtain ⟨entries, hentries, hmem⟩ := Packed.fields?_layout layout
  rw [hentries, Option.bind_some] at h
  intro hp
  have hentry := (hmem (f.index, p)).2 ⟨f, rfl, hp⟩
  simpa using List.lookup_eq_none_iff.1 h _ hentry

/-- The child with a field shows as the node with that field. -/
theorem fieldBelow?_position (f : Field) (h : Stands t trail) :
    (fieldBelow? f t trail).map (position E) =
      (seek (fun n => n.field = some f) [] 0 t.inner).map (below E t trail) := by
  match t, h with
  | .leaf _, _ => rfl
  | .node phrase layout children, h =>
    rw [fieldBelow?]
    split
    · next hlookup =>
      have hnone : ∀ n ∈ (Tree.node phrase layout children).inner, ¬ n.field = some f := by
        intro n hn hfield
        obtain ⟨l, c, hwhole, hc⟩ := Level.exists_nodes phrase [] hn
        have hstands : Stands c (l :: trail) := by
          rw [Stands, hwhole]
          exact h
        obtain ⟨-, hlayout, -⟩ := Tree.node.inj hwhole
        have hplace := field_nodes hstands.steady hstands.sound hc hfield
        rw [Level.field?] at hplace
        split at hplace
        · cases hplace
        · exact field?_of_lookup_none hlookup _ (hlayout ▸ hplace)
      rw [seek_eq_none.2 (Nat.le_of_eq (List.countP_eq_zero.2 fun n hn => by simpa using hnone n hn))]
      rfl
    · next place hlookup => exact placeFrom?_position (place_of_lookup hlookup) [] (Nat.zero_le _) h

/-- A spot stands in the tree of a program, and shows a node of its own. -/
structure Shows (s : Spot) : Prop where
  stands : Stands s.tree s.trail
  visible : (symbolIn s.tree s.trail).isVisible = true

section
variable {named : Bool}

mutual

theorem childBelow?_shows (i : Nat) : (t : Tree) → (trail : List Level) → Stands t trail →
    ∀ s, childBelow? named i t trail = some s → s.Shows
  | .leaf _, _, _, _, h => nomatch h
  | .node phrase layout children, trail, stands, s, h =>
    childFrom?_shows phrase layout trail [] i children stands s h

theorem childFrom?_shows (phrase : Nonterminal) (layout : Layout) (trail : List Level) (before : List Tree)
    (i : Nat) : (rest : List Tree) → Stands (.node phrase layout (before.reverse ++ rest)) trail →
      ∀ s, childFrom? named phrase layout trail before i rest = some s → s.Shows
  | [], _, _, h => by rw [childFrom?] at h; cases h
  | t :: rest, stands, s, h => by
    have hlater := Stands.behind (t := t) (l := ⟨phrase, layout, before, rest⟩) stands
    rw [childFrom?] at h
    split at h
    · next hcounts =>
      split at h
      · cases h
        exact ⟨stands, (Bool.and_eq_true_iff.1 hcounts).1⟩
      · exact childFrom?_shows phrase layout trail (t :: before) (i - 1) rest hlater s h
    · split at h
      · exact childBelow?_shows i t (⟨phrase, layout, before, rest⟩ :: trail) stands s h
      · exact childFrom?_shows phrase layout trail (t :: before) _ rest hlater s h

end

theorem placeFrom?_shows {place : Nat} {phrase : Nonterminal} {layout : Layout} {rest : List Tree} {s : Spot} :
    ∀ before, Stands (.node phrase layout (before.reverse ++ rest)) trail →
      placeFrom? place phrase layout trail before rest = some s → s.Shows := by
  induction rest with
  | nil =>
    intro before _ h
    rw [placeFrom?] at h
    cases h
  | cons t rest ih =>
    intro before stands h
    rw [placeFrom?] at h
    split at h
    · exact ih (t :: before) (Stands.behind (t := t) (l := ⟨phrase, layout, before, rest⟩) stands) h
    · split at h
      · next hshows =>
        cases h
        exact ⟨stands, hshows⟩
      · exact childBelow?_shows 0 t (⟨phrase, layout, before, rest⟩ :: trail) stands s h

theorem above?_shows {s : Spot} (stands : Stands t trail) (h : above? t trail = some s) : s.Shows := by
  induction trail generalizing t with
  | nil => cases h
  | cons l trail ih =>
    rw [above?] at h
    split at h
    · next hshows =>
      cases h
      exact ⟨stands, hshows⟩
    · exact ih stands h

theorem behind?_shows {s : Spot} (stands : Stands t trail) (h : behind? named t trail = some s) : s.Shows := by
  induction trail generalizing t with
  | nil => cases h
  | cons l trail ih =>
    rw [behind?] at h
    split at h
    · next found hfound =>
      cases h
      exact childFrom?_shows _ _ _ _ _ _ (Stands.behind stands) s hfound
    · split at h
      · cases h
      · exact ih stands h

theorem ahead?_shows {s : Spot} (stands : Stands t trail) (h : ahead? named t trail = some s) : s.Shows := by
  induction trail generalizing t with
  | nil => cases h
  | cons l trail ih =>
    rw [ahead?] at h
    split at h
    · exact childBelow?_shows _ (l.whole t) trail stands s h
    · split at h
      · cases h
      · exact ih stands h

end

variable {s : Spot}

theorem Shows.go? {m : Move} {s' : Spot} (hs : s.Shows) (h : s.go? m = some s') : s'.Shows := by
  cases m with
  | childAt | namedChildAt => exact childBelow?_shows _ _ _ hs.stands s' h
  | field name =>
    obtain ⟨f, -, hf⟩ := Option.bind_eq_some_iff.1 h
    have hstands := hs.stands
    unfold fieldBelow? at hf
    split at hf
    · cases hf
    · next htree =>
      split at hf
      · cases hf
      · exact placeFrom?_shows [] (htree ▸ hstands) hf
  | parent => exact above?_shows hs.stands h
  | next | nextNamed => exact behind?_shows hs.stands h
  | prev | prevNamed => exact ahead?_shows hs.stands h

theorem agrees_all (n : Node) (shows : n.symbol.isVisible = true) : true = n.symbol.counts false := by
  simp [Symbol.counts, shows]

theorem agrees_named (n : Node) (shows : n.symbol.isVisible = true) : n.isNamed = n.symbol.counts true := by
  simp [Symbol.counts, shows, Node.isNamed]

theorem Shows.child? (hs : s.Shows) (wanted : Node → Bool) (i : Nat) :
    (s.position E).child? wanted i = (seek wanted [] i s.tree.inner).map (below E s.tree s.trail) := by
  rw [below_shown hs.visible, Position.child?, position, label_children_nodeIn]
  rfl

/-- A move over the stored tree is the move over the nodes. -/
theorem Shows.go?_position (hs : s.Shows) (m : Move) :
    (s.go? m).map (position E) = (s.position E).go? m := by
  have hnodes := hs.stands.nodesIn_eq (E := E) hs.visible
  cases m with
  | childAt i => exact (childBelow?_position agrees_all _ _ _ hs.stands).trans (hs.child? _ _).symm
  | namedChildAt i => exact (childBelow?_position agrees_named _ _ _ hs.stands).trans (hs.child? _ _).symm
  | field name =>
    simp only [Spot.go?, Position.go?]
    cases Field.ofLabel? name with
    | none => rfl
    | some f => exact (fieldBelow?_position f hs.stands).trans (hs.child? _ _).symm
  | parent =>
    refine (above?_position hs.stands).trans ?_
    rw [hnodes, Position.go?, Position.parent?, position]
    rfl
  | next =>
    refine (behind?_position agrees_all hs.stands).trans ?_
    rw [hnodes]
    rfl
  | nextNamed =>
    refine (behind?_position agrees_named hs.stands).trans ?_
    rw [hnodes]
    rfl
  | prev =>
    refine (ahead?_position agrees_all hs.stands).trans ?_
    rw [hnodes]
    rfl
  | prevNamed =>
    refine (ahead?_position agrees_named hs.stands).trans ?_
    rw [hnodes]
    rfl

/-- A walk over the stored tree is the walk over the nodes. -/
theorem along_position {tree : Tree} (hroot : (⟨tree, []⟩ : Spot).Shows) (moves : List Move) :
    (along tree moves).Shows ∧
      (along tree moves).position E = Position.along (tree.program E) moves := by
  suffices h : ∀ s : Spot, s.Shows → (moves.foldl go s).Shows ∧
      (moves.foldl go s).position E = moves.foldl Position.go (s.position E) from h _ hroot
  induction moves with
  | nil => exact fun s hs => ⟨hs, rfl⟩
  | cons m moves ih =>
    intro s hs
    have hgo : (s.go m).Shows ∧ (s.go m).position E = (s.position E).go m := by
      have hmove := hs.go?_position (E := E) m
      rw [go, Position.go, ← hmove]
      cases hfound : s.go? m with
      | none => exact ⟨hs, rfl⟩
      | some s' => exact ⟨hs.go? hfound, rfl⟩
    rw [List.foldl_cons, List.foldl_cons, ← hgo.2]
    exact ih _ hgo.1

/-- A spot of the stored tree shows the node of a position, and moves as the position does. -/
structure Mirrors (textEnd : Point) (s : Spot) (p : Position) : Prop where
  position : s.position textEnd = p
  symbol : symbolIn s.tree s.trail = p.node.symbol
  /-- As many children count as there are nodes below. -/
  count : s.tree.countBelow false = p.node.children.length
  namedCount : s.tree.countBelow true = p.node.namedChildren.length
  moves : ∀ m, (s.go? m).map (Spot.position textEnd) = p.go? m

theorem Shows.mirrors (hs : s.Shows) : s.Mirrors E (s.position E) where
  position := rfl
  symbol := by
    obtain ⟨t, _ | ⟨l, trail⟩⟩ := s
    · rw [symbolIn, hs.stands.2]
      cases t <;> exact hs.stands.2.symm
    · exact (symbol_nodeIn t l trail).symm
  count := by
    rw [countBelow_eq agrees_all s.tree hs.stands.steady, position, label_children_nodeIn]
    exact congrFun List.countP_true _
  namedCount := by
    rw [countBelow_eq agrees_named s.tree hs.stands.steady, position, label_children_nodeIn]
    exact List.countP_eq_length_filter
  moves := hs.go?_position

end Spot
end Numscript
