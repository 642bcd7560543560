import Numscript.Proofs.Stretch
import Numscript.Proofs.Tree.Structural

/-!
# The nodes of a tree

The nodes below a node are the children of it and of the nodes below it, each once. The leaves are those nodes
that have no children, in the same order.
-/
namespace Numscript.Node

mutual

theorem inside_perm_children : (n : Node) → n.inside.Perm ((n :: n.inside).flatMap children)
  | .mk _ nodes => insideAll_perm_children nodes

theorem insideAll_perm_children : (nodes : List Node) →
    (insideAll nodes).Perm (nodes ++ (insideAll nodes).flatMap children)
  | [] => .nil
  | n :: rest => by
    have hfirst := inside_perm_children n
    have hrest := insideAll_perm_children rest
    rw [insideAll, List.cons_append, List.flatMap_cons, List.flatMap_append]
    refine .cons n ((hfirst.append hrest).trans ?_)
    rw [List.flatMap_cons, ← List.append_assoc, ← List.append_assoc, ← List.append_assoc]
    exact (List.perm_append_comm.trans (by rw [List.append_assoc])).append_right _

end

/-- Whether a node is a leaf: a phrase without children is none. -/
def isLeaf (n : Node) : Bool :=
  n.children.isEmpty && match n.symbol with
    | .nonterminal _ => false
    | _ => true

mutual

/-- The leaves of a node are the nodes without children, in order. -/
theorem leaves_eq_filter : (n : Node) → n.leaves = ((n :: n.inside).filter isLeaf).map label
  | .mk label [] => by
    rw [leaves, inside, insideAll, List.filter_cons, List.filter_nil]
    cases hsymbol : label.symbol <;> simp [isLeaf, children, symbol, Node.label, hsymbol]
  | .mk label (n :: rest) => by
    have hparent : ¬isLeaf (.mk label (n :: rest)) = true := Bool.false_ne_true
    rw [leaves, leaves_eq_filter n, leavesOfAll_eq_filter rest, inside, insideAll,
      List.filter_cons_of_neg hparent, ← List.map_append, ← List.filter_append, List.cons_append]

theorem leavesOfAll_eq_filter : (nodes : List Node) →
    leavesOfAll nodes = ((insideAll nodes).filter isLeaf).map label
  | [] => rfl
  | n :: rest => by
    rw [leavesOfAll, leaves_eq_filter n, leavesOfAll_eq_filter rest, insideAll, ← List.map_append,
      ← List.filter_append, List.cons_append]

end

/-! ### Edges -/

/-- The nodes of a tree with their children. -/
def edges (root : Node) : List (Node × Node) :=
  (root :: root.inside).flatMap fun p => p.children.map (p, ·)

theorem mem_edges {root p c : Node} : (p, c) ∈ edges root ↔ p ∈ root :: root.inside ∧ c ∈ p.children := by
  simp only [edges, List.mem_flatMap, List.mem_map, Prod.mk.injEq]
  constructor
  · rintro ⟨q, hq, d, hd, rfl, rfl⟩
    exact ⟨hq, hd⟩
  · rintro ⟨hp, hc⟩
    exact ⟨p, hp, c, hc, rfl, rfl⟩

theorem mem_inside_of_mem_edges {root p c : Node} (h : (p, c) ∈ edges root) : c ∈ root.inside := by
  obtain ⟨hp, hc⟩ := mem_edges.1 h
  have hinside := Node.mem_inside_of_mem_children hc
  rcases List.mem_cons.1 hp with rfl | hp
  · exact hinside
  · exact Node.inside_trans root hp hinside

theorem filter_eq_singleton {α : Type} {P : α → Bool} {l : List α} {a : α} (mem : a ∈ l) (ha : P a = true)
    (apart : l.Pairwise fun x y => ¬(P x = true ∧ P y = true)) : l.filter P = [a] := by
  induction l with
  | nil => cases mem
  | cons b l ih =>
    obtain ⟨hfirst, hrest⟩ := List.pairwise_cons.1 apart
    rcases List.mem_cons.1 mem with rfl | mem
    · rw [List.filter_cons_of_pos ha, List.filter_eq_nil_iff.2 fun x hx hP => hfirst x hx ⟨ha, hP⟩]
    · rw [List.filter_cons_of_neg fun hb => hfirst a mem ⟨hb, ha⟩, ih mem hrest]

theorem leaves_perm {root : Node} (plain : root.isLeaf = false) :
    (((edges root).filter fun e => e.2.isLeaf).map fun e => e.2.label).Perm root.leaves := by
  have hchildren : (edges root).map (·.2) = (root :: root.inside).flatMap Node.children := by
    rw [edges, List.map_flatMap]
    exact List.flatMap_congr fun p _ => List.map_map.trans (List.map_id p.children)
  have hlabels : ((edges root).filter fun e => e.2.isLeaf).map (fun e => e.2.label) =
      (((edges root).map (·.2)).filter Node.isLeaf).map Node.label := by
    rw [List.filter_map, List.map_map]
    rfl
  rw [hlabels, hchildren, Node.leaves_eq_filter, List.filter_cons_of_neg (by simp [plain])]
  exact (root.inside_perm_children.symm.filter _).map _

/-- No two leaves start at the same place. -/
theorem edges_apart {root : Node} (plain : root.isLeaf = false) (order : Label.InOrder root.leaves) :
    (edges root).Pairwise fun a b => a.2.isLeaf = true → b.2.isLeaf = true →
      a.2.label.start ≠ b.2.label.start := by
  have hleaves : root.leaves.Pairwise fun a b => a.start ≠ b.start := by
    refine order.apart.imp_of_mem fun {a b} ha _ hab hstart => ?_
    have hroom := order.room a ha
    rw [hstart] at hroom
    omega
  have hedges := (leaves_perm plain).symm.pairwise hleaves fun hab => hab.symm
  rw [List.pairwise_map, List.pairwise_filter] at hedges
  exact hedges

theorem parent_eq {root p q c : Node} (plain : root.isLeaf = false) (order : Label.InOrder root.leaves)
    (hp : (p, c) ∈ edges root) (hq : (q, c) ∈ edges root) (leaf : c.isLeaf = true) : p = q := by
  have hone {e : Node × Node} (he : e ∈ edges root) (same : e.2 = c) := filter_eq_singleton
    (P := fun e => e.2.isLeaf && e.2.label.start = c.label.start) he (by simp [same, leaf])
    ((edges_apart plain order).imp fun {a b} hab hboth => by
      simp only [Bool.and_eq_true, decide_eq_true_eq] at hboth
      exact hab hboth.1.1 hboth.2.1 (hboth.1.2.trans hboth.2.2.symm))
  have hsame := (hone hp rfl).symm.trans (hone hq rfl)
  exact congrArg Prod.fst (List.cons.inj hsame).1

/-! ### Leaves -/

/-- A label that starts behind one of the leaves that follow one another and ends before another one is among
them. -/
theorem mem_of_infix {a b : List Label} (order : Label.InOrder b) (inf : a <:+: b) {before l behind : Label}
    (hbefore : before ∈ a) (hbehind : behind ∈ a) (hl : l ∈ b) (first : before.stop.byte ≤ l.start.byte)
    (last : l.stop.byte ≤ behind.start.byte) : l ∈ a := by
  obtain ⟨u, v, rfl⟩ := inf
  have hroom := order.room
  obtain ⟨hleft, _, hright⟩ := List.pairwise_append.1 order.apart
  obtain ⟨_, _, hinner⟩ := List.pairwise_append.1 hleft
  have hl' := hroom l hl
  simp only [List.mem_append] at hl
  rcases hl with (hl | hl) | hl
  · have hplace := hinner l hl before hbefore
    have hroom := hroom before (by simp [hbefore])
    omega
  · exact hl
  · have hplace := hright behind (by simp [hbehind]) l hl
    have hroom := hroom behind (by simp [hbehind])
    omega

end Numscript.Node
