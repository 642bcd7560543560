import Numscript.Tree.Position

/-!
# Ways back

A move that succeeds can be taken back: from a child the way back is to the parent, and from the next of the
siblings with a property to the previous one, if the node that was left has the property itself.
-/
namespace Numscript

namespace Position

variable {wanted : Node → Bool} {n : Node}

theorem seek_skip (h : wanted n = false) (before : List Node) (i : Nat) (nodes : List Node) :
    seek wanted before i (n :: nodes) = seek wanted (n :: before) i nodes := by
  rw [seek.eq_def]
  simp only [h]

theorem seek_zero (h : wanted n = true) (before nodes : List Node) :
    seek wanted before 0 (n :: nodes) = some (before, n, nodes) := by
  rw [seek.eq_def]
  simp only [h]

theorem seek_succ (h : wanted n = true) (before : List Node) (i : Nat) (nodes : List Node) :
    seek wanted before (i + 1) (n :: nodes) = seek wanted (n :: before) i nodes := by
  rw [seek.eq_def]
  simp only [h]

theorem isSome_seek (before : List Node) (i : Nat) (nodes : List Node) :
    (seek wanted before i nodes).isSome = true ↔ i < (nodes.filter wanted).length := by
  induction nodes generalizing before i with
  | nil => simp [seek]
  | cons n nodes ih =>
    cases hwanted : wanted n with
    | false => rw [seek_skip hwanted, List.filter_cons_of_neg (by simp [hwanted]), ih]
    | true =>
      rw [List.filter_cons_of_pos hwanted, List.length_cons]
      cases i with
      | zero => simp [seek_zero hwanted]
      | succ i => rw [seek_succ hwanted, ih, Nat.succ_lt_succ_iff]

theorem seek_eq_none {before : List Node} {i : Nat} {nodes : List Node} :
    seek wanted before i nodes = none ↔ nodes.countP wanted ≤ i := by
  rw [← Option.not_isSome_iff_eq_none, isSome_seek, Nat.not_lt, List.countP_eq_length_filter]

theorem seek_append {skipped : List Node} (h : ∀ m ∈ skipped, wanted m = false) (before : List Node) (i : Nat)
    (nodes : List Node) :
    seek wanted before i (skipped ++ nodes) = seek wanted (skipped.reverse ++ before) i nodes := by
  induction skipped generalizing before with
  | nil => rfl
  | cons m skipped ih =>
    rw [List.forall_mem_cons] at h
    rw [List.cons_append, seek_skip h.1, ih h.2, List.reverse_cons, List.append_assoc]
    rfl

/-- Up to the first node with a property, all are passed over. -/
theorem exists_skipped {before nodes b a : List Node} (h : seek wanted before 0 nodes = some (b, n, a)) :
    ∃ skipped, (∀ m ∈ skipped, wanted m = false) ∧ nodes = skipped ++ n :: a ∧
      b = skipped.reverse ++ before := by
  induction nodes generalizing before with
  | nil => cases h
  | cons m nodes ih =>
    cases hwanted : wanted m with
    | true =>
      rw [seek_zero hwanted] at h
      cases h
      exact ⟨[], List.forall_mem_nil _, rfl, rfl⟩
    | false =>
      rw [seek_skip hwanted] at h
      obtain ⟨skipped, hskipped, rfl, rfl⟩ := ih h
      refine ⟨m :: skipped, List.forall_mem_cons.2 ⟨hwanted, hskipped⟩, rfl, ?_⟩
      rw [List.reverse_cons, List.append_assoc]
      rfl

theorem wanted_of_seek {before nodes b a : List Node} {i : Nat}
    (h : seek wanted before i nodes = some (b, n, a)) : wanted n = true := by
  induction nodes generalizing before i with
  | nil => cases h
  | cons m nodes ih =>
    cases hwanted : wanted m with
    | false =>
      rw [seek_skip hwanted] at h
      exact ih h
    | true =>
      cases i with
      | zero =>
        rw [seek_zero hwanted] at h
        cases h
        exact hwanted
      | succ i =>
        rw [seek_succ hwanted] at h
        exact ih h

/-- From what was sought on one side of a node, the node is what is sought on the other side. -/
theorem seek_back {m : Node} {before after b a : List Node} (hm : wanted m = true)
    (h : seek wanted (m :: before) 0 after = some (b, n, a)) :
    seek wanted (n :: a) 0 b = some (after, m, before) := by
  obtain ⟨skipped, hskipped, rfl, rfl⟩ := exists_skipped h
  have hback : ∀ d ∈ skipped.reverse, wanted d = false := fun d hd => hskipped d (List.mem_reverse.1 hd)
  rw [seek_append hback, seek_zero hm, List.reverse_reverse]

/-- What lies before the searched nodes stays before what is found. -/
theorem seek_over_append (passed before : List Node) (i : Nat) (nodes : List Node) :
    seek wanted (passed ++ before) i nodes =
      (seek wanted passed i nodes).map fun r => (r.1 ++ before, r.2.1, r.2.2) := by
  induction nodes generalizing passed i with
  | nil => rfl
  | cons n nodes ih =>
    cases hwanted : wanted n with
    | false => rw [seek_skip hwanted, seek_skip hwanted, ← ih, List.cons_append]
    | true =>
      cases i with
      | zero => rw [seek_zero hwanted, seek_zero hwanted]; rfl
      | succ i => rw [seek_succ hwanted, seek_succ hwanted, ← ih, List.cons_append]

theorem seek_over (before : List Node) (i : Nat) (nodes : List Node) :
    seek wanted before i nodes =
      (seek wanted [] i nodes).map fun r => (r.1 ++ before, r.2.1, r.2.2) :=
  seek_over_append [] before i nodes

/-- Among enough nodes with the property, what follows them is not searched. -/
theorem seek_within {i : Nat} {nodes : List Node} (h : i < nodes.countP wanted)
    (before after : List Node) : seek wanted before i (nodes ++ after) =
      (seek wanted before i nodes).map fun r => (r.1, r.2.1, r.2.2 ++ after) := by
  induction nodes generalizing before i with
  | nil => simp at h
  | cons n nodes ih =>
    rw [List.cons_append]
    cases hwanted : wanted n with
    | false =>
      rw [List.countP_cons_of_neg (by simp [hwanted])] at h
      rw [seek_skip hwanted, seek_skip hwanted, ih h]
    | true =>
      rw [List.countP_cons_of_pos hwanted] at h
      cases i with
      | zero => rw [seek_zero hwanted, seek_zero hwanted]; rfl
      | succ i => rw [seek_succ hwanted, seek_succ hwanted, ih (Nat.lt_of_succ_lt_succ h)]

/-- What is found among some nodes lies between all that is around them. -/
theorem seek_inside {i : Nat} {nodes : List Node} (h : i < nodes.countP wanted)
    (passed before after : List Node) : seek wanted (passed ++ before) i (nodes ++ after) =
      (seek wanted passed i nodes).map fun r => (r.1 ++ before, r.2.1, r.2.2 ++ after) := by
  rw [seek_within h, seek_over_append, Option.map_map]
  rfl

/-- Too few nodes with the property are passed over. -/
theorem seek_beyond {i : Nat} {nodes : List Node} (h : nodes.countP wanted ≤ i)
    (before after : List Node) : seek wanted before i (nodes ++ after) =
      seek wanted (nodes.reverse ++ before) (i - nodes.countP wanted) after := by
  induction nodes generalizing before i with
  | nil => rfl
  | cons n nodes ih =>
    rw [List.cons_append, List.reverse_cons, List.append_assoc, List.singleton_append]
    cases hwanted : wanted n with
    | false =>
      rw [List.countP_cons_of_neg (by simp [hwanted])] at h ⊢
      rw [seek_skip hwanted, ih h]
    | true =>
      rw [List.countP_cons_of_pos hwanted] at h ⊢
      cases i with
      | zero => omega
      | succ i => rw [seek_succ hwanted, ih (Nat.le_of_succ_le_succ h), Nat.add_sub_add_right]

/-- The nearest node before a place is the last one with the property from the front on. -/
theorem seek_last {i : Nat} {before : List Node} (h : before.countP wanted = i + 1)
    (after : List Node) : seek wanted [] i (before.reverse ++ after) =
      (seek wanted after 0 before).map fun r => (r.2.2, r.2.1, r.1) := by
  have hsome : (seek wanted after 0 before).isSome = true := by
    rw [isSome_seek, ← List.countP_eq_length_filter]
    omega
  obtain ⟨⟨a, n, b⟩, hseek⟩ := Option.isSome_iff_exists.1 hsome
  have hwanted := wanted_of_seek hseek
  obtain ⟨skipped, hskipped, rfl, rfl⟩ := exists_skipped hseek
  have hnone : skipped.countP wanted = 0 := List.countP_eq_zero.2 fun m hm => by simp [hskipped m hm]
  have hcount : b.countP wanted = i := by
    rw [List.countP_append, hnone, List.countP_cons_of_pos hwanted] at h
    omega
  rw [hseek, List.reverse_append, List.reverse_cons, List.append_assoc, List.append_assoc,
    seek_beyond (Nat.le_of_eq ((List.countP_reverse ..).trans hcount)), List.countP_reverse, hcount, Nat.sub_self,
    List.reverse_reverse, List.append_nil, List.singleton_append, seek_zero hwanted]
  rfl

variable {p q : Position}

theorem exists_child_iff {i : Nat} :
    (∃ q, p.child? wanted i = some q) ↔ i < (p.node.children.filter wanted).length := by
  rw [← Option.isSome_iff_exists, child?, Option.isSome_map, isSome_seek]

theorem parent_child {i : Nat} (h : p.child? wanted i = some q) : q.parent? = some p := by
  obtain ⟨⟨b, n, a⟩, hseek, rfl⟩ := Option.map_eq_some_iff.1 h
  have hnodes := seek_eq hseek
  obtain ⟨⟨label, children⟩, trail⟩ := p
  rw [List.reverse_nil, List.nil_append] at hnodes
  simp only [parent?, hnodes]
  rfl

theorem prev_next (hp : wanted p.node = true) (h : p.next? wanted = some q) : q.prev? wanted = some p := by
  obtain ⟨node, _ | ⟨s, trail⟩⟩ := p
  · cases h
  · obtain ⟨⟨b, n, a⟩, hseek, rfl⟩ := Option.map_eq_some_iff.1 h
    rw [prev?]
    simp only [seek_back hp hseek]
    rfl

theorem next_prev (hp : wanted p.node = true) (h : p.prev? wanted = some q) : q.next? wanted = some p := by
  obtain ⟨node, _ | ⟨s, trail⟩⟩ := p
  · cases h
  · obtain ⟨⟨a, n, b⟩, hseek, rfl⟩ := Option.map_eq_some_iff.1 h
    rw [next?]
    simp only [seek_back hp hseek]
    rfl

end Position
end Numscript
