import Numscript.Proofs.Tree.Position
import Numscript.Proofs.Tree.Sketch
import Numscript.Tree.Numbering

/-!
# Moves and numbers

A move in a tree is the move of the same name in its outline. The outline is parted at a position: what is before
it on the way from the root, its own rows, and what is behind. Siblings are the rows of its own depth in these
parts, and what is sought among the siblings is sought among these rows.
-/
namespace Numscript

theorem takeWhile_front {α : Type} {p : α → Bool} {a b : List α} (inside : ∀ x ∈ a, p x = true)
    (outside : ∀ x ∈ b.head?, p x = false) : (a ++ b).takeWhile p = a := by
  rw [List.takeWhile_append_of_pos inside]
  cases b with
  | nil => rw [List.takeWhile_nil, List.append_nil]
  | cons x b => rw [List.takeWhile_cons_of_neg (by simp [outside x rfl]), List.append_nil]

namespace Node

theorem rowsOfAll_append (depth : Nat) (a b : List Node) :
    rowsOfAll depth (a ++ b) = rowsOfAll depth a ++ rowsOfAll depth b := by
  induction a with
  | nil => rfl
  | cons n a ih => rw [List.cons_append, rowsOfAll, rowsOfAll, ih, List.append_assoc]

mutual

/-- Nothing in the outline of a node stands higher than the node. -/
theorem depth_of_mem_rows {depth : Nat} {r : Row} : (n : Node) → r ∈ n.rows depth → depth ≤ r.depth
  | .mk label children, hr => by
    rw [rows] at hr
    rcases List.mem_cons.1 hr with rfl | hr
    · exact Nat.le_refl depth
    · exact Nat.le_of_succ_le (depth_of_mem_rowsOfAll children hr)

theorem depth_of_mem_rowsOfAll {depth : Nat} {r : Row} :
    (nodes : List Node) → r ∈ rowsOfAll depth nodes → depth ≤ r.depth
  | [], hr => nomatch hr
  | n :: rest, hr => by
    rw [rowsOfAll] at hr
    rcases List.mem_append.1 hr with hr | hr
    · exact depth_of_mem_rows n hr
    · exact depth_of_mem_rowsOfAll rest hr

end

theorem depth_of_mem_zipIdx {depth number : Nat} {nodes : List Node} :
    ∀ r ∈ (rowsOfAll depth nodes).zipIdx number, depth ≤ r.1.depth :=
  fun _ hr => depth_of_mem_rowsOfAll nodes (List.fst_mem_of_mem_zipIdx hr)

/-- The rows of some nodes without those below them, where the first row has a number. -/
def tops (depth : Nat) : (number : Nat) → List Node → List (Row × Nat)
  | _, [] => []
  | number, n :: rest => (⟨depth, n.label⟩, number) :: tops depth (number + (n.rows depth).length) rest

theorem tops_append (depth number : Nat) (a b : List Node) : tops depth number (a ++ b) =
    tops depth number a ++ tops depth (number + (rowsOfAll depth a).length) b := by
  induction a generalizing number with
  | nil => rfl
  | cons n a ih =>
    rw [List.cons_append, tops, tops, ih, rowsOfAll, List.length_append, List.cons_append, Nat.add_assoc]

theorem map_tops (depth number : Nat) (nodes : List Node) :
    (tops depth number nodes).map (·.1.label) = nodes.map label := by
  induction nodes generalizing number with
  | nil => rfl
  | cons n nodes ih => rw [tops, List.map_cons, ih, List.map_cons]

theorem filter_below (depth number : Nat) (nodes : List Node) :
    ((rowsOfAll (depth + 1) nodes).zipIdx number).filter (fun r => r.1.depth = depth) = [] := by
  refine List.filter_eq_nil_iff.2 fun r hr => ?_
  have hle := depth_of_mem_zipIdx r hr
  simp only [decide_eq_true_eq]
  omega

theorem filter_zipIdx (depth number : Nat) (nodes : List Node) :
    ((rowsOfAll depth nodes).zipIdx number).filter (fun r => r.1.depth = depth) = tops depth number nodes := by
  induction nodes generalizing number with
  | nil => rfl
  | cons n nodes ih =>
    obtain ⟨label, children⟩ := n
    rw [rowsOfAll, rows, List.zipIdx_append, List.filter_append, List.zipIdx_cons,
      List.filter_cons_of_pos (by simp), filter_below, ih, tops, rows]
    rfl

end Node

namespace Position

open Node (rowsOfAll tops)

/-- The rows behind a position and what stands below it, told by the way from the root. -/
def rowsBehind : List Branch → List Row
  | [] => []
  | s :: trail => rowsOfAll (trail.length + 1) s.after ++ rowsBehind trail

/-- The outline of a tree, parted at a position. -/
theorem outline_eq (p : Position) : p.root.outline =
    rowsBefore p.trail ++ (p.node.rows p.trail.length ++ rowsBehind p.trail) := by
  obtain ⟨node, trail⟩ := p
  induction trail generalizing node with
  | nil => simp [root, Node.outline, rowsBefore, rowsBehind]
  | cons s trail ih =>
    have hparent := ih (.mk s.parent (s.before.reverse ++ node :: s.after))
    rw [Node.rows, Node.rowsOfAll_append, rowsOfAll] at hparent
    rw [rowsBefore, rowsBehind]
    simp only [List.cons_append, List.append_assoc] at hparent ⊢
    exact hparent

theorem head_rowsBehind (trail : List Branch) : ∀ r ∈ (rowsBehind trail).head?, r.depth ≤ trail.length := by
  induction trail with
  | nil => exact fun r hr => absurd hr (Option.not_mem_none r)
  | cons s trail ih =>
    intro r hr
    cases hafter : s.after with
    | nil =>
      rw [rowsBehind, hafter] at hr
      exact Nat.le_succ_of_le (ih r hr)
    | cons n after =>
      obtain ⟨label, children⟩ := n
      rw [rowsBehind, hafter] at hr
      cases hr
      exact Nat.le_refl _

theorem head_zipIdx_rowsBehind (trail : List Branch) (number : Nat) :
    ∀ r ∈ ((rowsBehind trail).zipIdx number).head?, r.1.depth ≤ trail.length := by
  have hhead := head_rowsBehind trail
  cases hrows : rowsBehind trail with
  | nil => exact fun r hr => absurd hr (Option.not_mem_none r)
  | cons r rows =>
    rintro _ ⟨⟩
    exact hhead r (by rw [hrows]; rfl)

theorem outline_index (p : Position) : p.root.outline[p.index]? = some ⟨p.trail.length, p.node.label⟩ := by
  obtain ⟨⟨label, children⟩, trail⟩ := p
  rw [outline_eq, index, List.getElem?_append_right (Nat.le_refl _), Nat.sub_self]
  rfl

theorem zipIdx_take (p : Position) : p.root.outline.zipIdx.take p.index = (rowsBefore p.trail).zipIdx := by
  rw [outline_eq, List.zipIdx_append]
  exact List.take_left' List.length_zipIdx

theorem zipIdx_drop (p : Position) : p.root.outline.zipIdx.drop (p.index + 1) =
    (rowsOfAll (p.trail.length + 1) p.node.children).zipIdx (p.index + 1) ++
      (rowsBehind p.trail).zipIdx
        (p.index + 1 + (rowsOfAll (p.trail.length + 1) p.node.children).length) := by
  obtain ⟨⟨label, children⟩, trail⟩ := p
  have hlength : (rowsBefore trail).zipIdx.length = index ⟨.mk label children, trail⟩ := List.length_zipIdx
  rw [outline_eq, List.zipIdx_append, ← List.drop_drop, List.drop_left' hlength, Node.rows, List.cons_append,
    List.zipIdx_cons, List.zipIdx_append, Nat.zero_add]
  rfl

theorem index_cons (node : Node) (s : Branch) (trail : List Branch) : index ⟨node, s :: trail⟩ =
    (rowsBefore trail).length + 1 + (rowsOfAll (trail.length + 1) s.before.reverse).length := by
  rw [index, rowsBefore, List.length_append, List.length_cons, Nat.add_right_comm, Nat.add_assoc]

theorem children_index (p : Position) : Row.children p.root.outline p.trail.length p.index =
    tops (p.trail.length + 1) (p.index + 1) p.node.children := by
  rw [Row.children, zipIdx_drop, takeWhile_front, Node.filter_zipIdx]
  · intro r hr
    exact decide_eq_true (Node.depth_of_mem_zipIdx r hr)
  · intro r hr
    exact decide_eq_false (Nat.not_lt.2 (head_zipIdx_rowsBehind _ _ r hr))

/-- The siblings behind a position have their rows behind those of its children. -/
theorem after_index (node : Node) (s : Branch) (trail : List Branch) :
    Row.after (root ⟨node, s :: trail⟩).outline (trail.length + 1) (index ⟨node, s :: trail⟩) =
      tops (trail.length + 1) (index ⟨node, s :: trail⟩ + 1 +
        (rowsOfAll (trail.length + 1 + 1) node.children).length) s.after := by
  have hdrop := zipIdx_drop ⟨node, s :: trail⟩
  rw [List.length_cons, rowsBehind, List.zipIdx_append, ← List.append_assoc] at hdrop
  rw [Row.after, hdrop, takeWhile_front, List.filter_append, Node.filter_below, Node.filter_zipIdx,
    List.nil_append]
  · intro r hr
    rcases List.mem_append.1 hr with hr | hr
    · exact decide_eq_true (Nat.le_of_succ_le (Node.depth_of_mem_zipIdx r hr))
    · exact decide_eq_true (Node.depth_of_mem_zipIdx r hr)
  · intro r hr
    exact decide_eq_false (Nat.not_le.2 (Nat.lt_succ_of_le (head_zipIdx_rowsBehind _ _ r hr)))

theorem after_root (node : Node) : Row.after (root ⟨node, []⟩).outline 0 (index ⟨node, []⟩) = [] := by
  have hdrop := zipIdx_drop ⟨node, []⟩
  rw [rowsBehind, List.zipIdx_nil] at hdrop
  rw [Row.after, hdrop, takeWhile_front]
  · exact Node.filter_below 0 _ _
  · exact fun r _ => decide_eq_true (Nat.zero_le r.1.depth)
  · exact fun r hr => absurd hr (Option.not_mem_none r)

/-- The rows before a position, with their numbers, the nearest first. -/
theorem zipIdx_take_reverse (node : Node) (s : Branch) (trail : List Branch) :
    ((root ⟨node, s :: trail⟩).outline.zipIdx.take (index ⟨node, s :: trail⟩)).reverse =
      ((rowsOfAll (trail.length + 1) s.before.reverse).zipIdx ((rowsBefore trail).length + 1)).reverse ++
        (⟨trail.length, s.parent⟩, (rowsBefore trail).length) :: (rowsBefore trail).zipIdx.reverse := by
  rw [zipIdx_take, rowsBefore, List.zipIdx_append, List.zipIdx_cons, List.reverse_append, List.reverse_cons,
    List.append_assoc, Nat.zero_add]
  rfl

theorem before_index (node : Node) (s : Branch) (trail : List Branch) :
    Row.before (root ⟨node, s :: trail⟩).outline (trail.length + 1) (index ⟨node, s :: trail⟩) =
      (tops (trail.length + 1) ((rowsBefore trail).length + 1) s.before.reverse).reverse := by
  rw [Row.before, zipIdx_take_reverse, takeWhile_front, List.filter_reverse, Node.filter_zipIdx]
  · intro r hr
    exact decide_eq_true (Node.depth_of_mem_zipIdx r (List.mem_reverse.1 hr))
  · rintro _ ⟨⟩
    exact decide_eq_false (Nat.not_le.2 (Nat.lt_succ_self _))

theorem parent_index (node : Node) (s : Branch) (trail : List Branch) :
    Row.parent? (root ⟨node, s :: trail⟩).outline (trail.length + 1) (index ⟨node, s :: trail⟩) =
      some (⟨trail.length, s.parent⟩, (rowsBefore trail).length) := by
  have hnone : ((rowsOfAll (trail.length + 1) s.before.reverse).zipIdx
      ((rowsBefore trail).length + 1)).reverse.find? (fun r => r.1.depth < trail.length + 1) = none := by
    refine List.find?_eq_none.2 fun r hr => ?_
    have hle := Node.depth_of_mem_zipIdx r (List.mem_reverse.1 hr)
    simp only [decide_eq_true_eq]
    omega
  rw [Row.parent?, zipIdx_take_reverse, List.find?_append, hnone, Option.none_or, List.find?_cons_of_pos]
  exact decide_eq_true (Nat.lt_succ_self _)

/-! ### Seeking -/

/-- What is sought behind some nodes is sought among their rows. -/
theorem seek_tops (wanted : Label → Bool) (depth number : Nat) (before : List Node) (i : Nat)
    (nodes : List Node) :
    (seek (fun n => wanted n.label) before i nodes).map
        (fun found => number + (rowsOfAll depth found.1.reverse).length) =
      (((tops depth (number + (rowsOfAll depth before.reverse).length) nodes).filter
        fun r => wanted r.1.label)[i]?).map (·.2) := by
  induction nodes generalizing before i with
  | nil => rw [seek, tops]; rfl
  | cons n nodes ih =>
    have hnext : number + (rowsOfAll depth (n :: before).reverse).length =
        number + (rowsOfAll depth before.reverse).length + (n.rows depth).length := by
      simp [Node.rowsOfAll_append, rowsOfAll, Nat.add_assoc]
    have hrest := fun i => ih (n :: before) i
    rw [hnext] at hrest
    rw [tops]
    cases hwanted : wanted n.label with
    | false =>
      rw [seek_skip hwanted, List.filter_cons_of_neg (by simp [hwanted])]
      exact hrest i
    | true =>
      rw [List.filter_cons_of_pos (by exact hwanted)]
      cases i with
      | zero =>
        rw [seek_zero hwanted]
        rfl
      | succ i =>
        rw [seek_succ hwanted, List.getElem?_cons_succ]
        exact hrest i

/-- What is sought before some nodes is sought among their rows, the nearest first. -/
theorem seek_tops_reverse (wanted : Label → Bool) (depth number : Nat) (after : List Node) (i : Nat)
    (nodes : List Node) :
    (seek (fun n => wanted n.label) after i nodes).map
        (fun found => number + (rowsOfAll depth found.2.2.reverse).length) =
      (((tops depth number nodes.reverse).reverse.filter fun r => wanted r.1.label)[i]?).map (·.2) := by
  induction nodes generalizing after i with
  | nil => rw [seek, List.reverse_nil, tops]; rfl
  | cons n nodes ih =>
    rw [List.reverse_cons, Node.tops_append, tops, tops, List.reverse_concat]
    cases hwanted : wanted n.label with
    | false =>
      rw [seek_skip hwanted, List.filter_cons_of_neg (by simp [hwanted])]
      exact ih _ i
    | true =>
      rw [List.filter_cons_of_pos (by exact hwanted)]
      cases i with
      | zero =>
        rw [seek_zero hwanted]
        rfl
      | succ i =>
        rw [seek_succ hwanted, List.getElem?_cons_succ]
        exact ih _ i

/-! ### Moves -/

theorem index_child (wanted : Label → Bool) (i : Nat) (p : Position) :
    (p.child? (fun n => wanted n.label) i).map index =
      (((Row.children p.root.outline p.trail.length p.index).filter
        fun r => wanted r.1.label)[i]?).map (·.2) := by
  have hseek := seek_tops wanted (p.trail.length + 1) (p.index + 1) [] i p.node.children
  rw [children_index, child?, Option.map_map]
  refine Eq.trans (congrArg (Option.map · _) (funext fun found => ?_)) hseek
  exact index_cons found.2.1 ⟨p.node.label, found.1, found.2.2⟩ p.trail

theorem index_next (wanted : Label → Bool) (node : Node) (s : Branch) (trail : List Branch) :
    (next? (fun n => wanted n.label) ⟨node, s :: trail⟩).map index =
      (((Row.after (root ⟨node, s :: trail⟩).outline (trail.length + 1) (index ⟨node, s :: trail⟩)).filter
        fun r => wanted r.1.label)[0]?).map (·.2) := by
  have hnumber : (rowsBefore trail).length + 1 +
      (rowsOfAll (trail.length + 1) (node :: s.before).reverse).length =
      index ⟨node, s :: trail⟩ + 1 + (rowsOfAll (trail.length + 1 + 1) node.children).length := by
    obtain ⟨label, children⟩ := node
    simp only [index_cons, List.reverse_cons, Node.rowsOfAll_append, rowsOfAll, Node.rows, Node.children,
      List.append_nil, List.length_append, List.length_cons]
    omega
  have hseek := seek_tops wanted (trail.length + 1) ((rowsBefore trail).length + 1) (node :: s.before) 0
    s.after
  rw [hnumber] at hseek
  rw [after_index, next?, Option.map_map]
  refine Eq.trans (congrArg (Option.map · _) (funext fun found => ?_)) hseek
  exact index_cons found.2.1 ⟨s.parent, found.1, found.2.2⟩ trail

theorem index_prev (wanted : Label → Bool) (node : Node) (s : Branch) (trail : List Branch) :
    (prev? (fun n => wanted n.label) ⟨node, s :: trail⟩).map index =
      (((Row.before (root ⟨node, s :: trail⟩).outline (trail.length + 1) (index ⟨node, s :: trail⟩)).filter
        fun r => wanted r.1.label)[0]?).map (·.2) := by
  have hseek := seek_tops_reverse wanted (trail.length + 1) ((rowsBefore trail).length + 1)
    (node :: s.after) 0 s.before
  rw [before_index, prev?, Option.map_map]
  refine Eq.trans (congrArg (Option.map · _) (funext fun found => ?_)) hseek
  exact index_cons found.2.1 ⟨s.parent, found.2.2, found.1⟩ trail

theorem field_eq_iff {name : String} {f : Field} (h : Field.ofLabel? name = some f) (field : Option Field) :
    field.map Field.label = some name ↔ field = some f := by
  have hname : f.label = name := by
    have hfound := List.find?_some h
    simpa using hfound
  cases field with
  | none => simp
  | some g =>
    rw [Option.map_some, Option.some.injEq, Option.some.injEq, ← hname]
    refine ⟨fun hlabel => ?_, fun hg => by rw [hg]⟩
    have hg := Field.ofLabel?_label g
    rw [hlabel, hname, h] at hg
    exact (Option.some.inj hg).symm

theorem index_field (name : String) (p : Position) : (p.go? (.field name)).map index =
    ((Row.children p.root.outline p.trail.length p.index).find?
      fun r => r.1.label.field.map Field.label = some name).map (·.2) := by
  rw [go?]
  cases hfield : Field.ofLabel? name with
  | none =>
    refine Eq.symm (Option.map_eq_none_iff.2 (List.find?_eq_none.2 fun r _ hr => ?_))
    obtain ⟨f, _, hf⟩ := Option.map_eq_some_iff.1 (of_decide_eq_true hr)
    rw [← hf, Field.ofLabel?_label] at hfield
    cases hfield
  | some f =>
    have hchild := index_child (fun label => label.field = some f) 0 p
    rw [← List.head?_eq_getElem?, List.head?_filter] at hchild
    simp only [field_eq_iff hfield]
    exact hchild

/-- A move in a tree leads to the row that the move in the outline leads to. -/
theorem index_go? (p : Position) (m : Move) : (p.go? m).map index = Row.target? p.root.outline p.index m := by
  rw [Row.target?, outline_index, Option.bind_some]
  cases m with
  | childAt i =>
    have hchild := index_child (fun _ => true) i.toNat p
    rw [List.filter_true] at hchild
    exact hchild
  | namedChildAt i => exact index_child (fun label => label.symbol.isNamed) i.toNat p
  | field name => exact index_field name p
  | parent =>
    obtain ⟨node, _ | ⟨s, trail⟩⟩ := p
    · rfl
    · rw [Row.reached?, List.length_cons, parent_index]
      rfl
  | next =>
    obtain ⟨node, _ | ⟨s, trail⟩⟩ := p
    · rw [Row.reached?, List.length_nil, after_root]
      rfl
    · have hnext := index_next (fun _ => true) node s trail
      rw [List.filter_true, ← List.head?_eq_getElem?] at hnext
      exact hnext
  | prev =>
    obtain ⟨node, _ | ⟨s, trail⟩⟩ := p
    · rfl
    · have hprev := index_prev (fun _ => true) node s trail
      rw [List.filter_true, ← List.head?_eq_getElem?] at hprev
      exact hprev
  | nextNamed =>
    obtain ⟨node, _ | ⟨s, trail⟩⟩ := p
    · rw [Row.reached?, List.length_nil, after_root]
      rfl
    · have hnext := index_next (fun label => label.symbol.isNamed) node s trail
      rw [← List.head?_eq_getElem?, List.head?_filter] at hnext
      exact hnext
  | prevNamed =>
    obtain ⟨node, _ | ⟨s, trail⟩⟩ := p
    · rfl
    · have hprev := index_prev (fun label => label.symbol.isNamed) node s trail
      rw [← List.head?_eq_getElem?, List.head?_filter] at hprev
      exact hprev

theorem index_go (p : Position) (m : Move) : (p.go m).index = Row.go p.root.outline p.index m := by
  rw [Row.go, ← index_go?, go]
  cases p.go? m <;> rfl

theorem index_foldl_go (p : Position) (moves : List Move) : (moves.foldl go p).root = p.root ∧
    (moves.foldl go p).index = moves.foldl (Row.go p.root.outline) p.index := by
  induction moves generalizing p with
  | nil => exact ⟨rfl, rfl⟩
  | cons m moves ih =>
    rw [List.foldl_cons, List.foldl_cons, ← index_go, ← root_go p m]
    exact ih (p.go m)

theorem index_along (start : Node) (moves : List Move) :
    (along start moves).root = start ∧ (along start moves).index = Row.along start.outline moves :=
  index_foldl_go (.ofRoot start) moves

end Position
end Numscript
