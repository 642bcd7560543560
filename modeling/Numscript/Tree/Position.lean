import Numscript.Tree.Node

/-!
# Moving about in a tree

A position is a node together with the way back to the root. A move goes to a child, a sibling or
the parent; it fails where there is none. What a position shows is its node: moving never changes
the tree.
-/
namespace Numscript

/-- One step on the way from a node to the root: the parent's label, and the node's siblings. -/
structure Branch where
  parent : Label
  /-- The siblings before, the nearest first. -/
  before : List Node
  /-- The siblings after, the nearest first. -/
  after : List Node
  deriving Repr

/-- A node in a tree, and the way from it to the root. -/
structure Position where
  node : Node
  trail : List Branch
  deriving Repr

/-- A move from one node to another. Children are numbered in thirty-two bits. -/
inductive Move where
  | childAt (i : UInt32)
  | namedChildAt (i : UInt32)
  /-- The first child with a field of this name. -/
  | field (name : String)
  | parent
  | next
  | prev
  | nextNamed
  | prevNamed
  deriving DecidableEq, Repr

namespace Move

/-- The move to a child, by the lowest thirty-two bits of a number. -/
def child (i : Nat) : Move := .childAt (UInt32.ofNat i)

/-- The move to a named child, by the lowest thirty-two bits of a number. -/
def namedChild (i : Nat) : Move := .namedChildAt (UInt32.ofNat i)

end Move

namespace Position

/-- The root of a tree. -/
def ofRoot (root : Node) : Position := ⟨root, []⟩

/--
The sibling with a number, counting only those with a property. The siblings before it come with
the nearest first.
-/
def seek (wanted : Node → Bool) (before : List Node) : (i : Nat) → List Node →
    Option (List Node × Node × List Node)
  | _, [] => none
  | i, n :: rest =>
    match wanted n, i with
    | true, 0 => some (before, n, rest)
    | true, i + 1 => seek wanted (n :: before) i rest
    | false, i => seek wanted (n :: before) i rest

/-- The child with a number, counting only those with a property. -/
def child? (wanted : Node → Bool) (i : Nat) (p : Position) : Option Position :=
  (seek wanted [] i p.node.children).map fun (before, n, after) =>
    ⟨n, ⟨p.node.label, before, after⟩ :: p.trail⟩

/-- The parent, whose children are put together again. -/
def parent? (p : Position) : Option Position :=
  match p.trail with
  | [] => none
  | s :: trail => some ⟨.mk s.parent (s.before.reverse ++ p.node :: s.after), trail⟩

/-- The nearest sibling after this node with a property. -/
def next? (wanted : Node → Bool) (p : Position) : Option Position :=
  match p.trail with
  | [] => none
  | s :: trail =>
    (seek wanted (p.node :: s.before) 0 s.after).map fun (before, n, after) =>
      ⟨n, { s with before, after } :: trail⟩

/-- The nearest sibling before this node with a property. -/
def prev? (wanted : Node → Bool) (p : Position) : Option Position :=
  match p.trail with
  | [] => none
  | s :: trail =>
    (seek wanted (p.node :: s.after) 0 s.before).map fun (after, n, before) =>
      ⟨n, { s with before, after } :: trail⟩

/-- The position a move leads to, if there is one. -/
def go? (p : Position) : Move → Option Position
  | .childAt i => p.child? (fun _ => true) i.toNat
  | .namedChildAt i => p.child? Node.isNamed i.toNat
  | .field name => (Field.ofLabel? name).bind fun f => p.child? (·.field = some f) 0
  | .parent => p.parent?
  | .next => p.next? fun _ => true
  | .prev => p.prev? fun _ => true
  | .nextNamed => p.next? Node.isNamed
  | .prevNamed => p.prev? Node.isNamed

/-- The position after a move; where the move fails, nothing changes. -/
def go (p : Position) (m : Move) : Position := (p.go? m).getD p

/-- The tree that the position lies in. -/
def root (p : Position) : Node :=
  p.trail.foldl (fun n s => .mk s.parent (s.before.reverse ++ n :: s.after)) p.node

/-- What was sought, with what lies before and after it, is the list that was searched. -/
theorem seek_eq {wanted : Node → Bool} {before nodes : List Node} {i : Nat}
    {b : List Node} {n : Node} {a : List Node} (h : seek wanted before i nodes = some (b, n, a)) :
    b.reverse ++ n :: a = before.reverse ++ nodes := by
  induction nodes generalizing before i with
  | nil => cases i <;> simp [seek] at h
  | cons m rest ih =>
    unfold seek at h
    split at h
    · simp only [Option.some.injEq, Prod.mk.injEq] at h
      obtain ⟨rfl, rfl, rfl⟩ := h
      rfl
    · simpa using ih h
    · simpa using ih h

theorem root_child {wanted : Node → Bool} {i : Nat} {p q : Position}
    (h : p.child? wanted i = some q) : q.root = p.root := by
  obtain ⟨⟨b, n, a⟩, hs, rfl⟩ := Option.map_eq_some_iff.1 h
  have he := seek_eq hs
  rcases p with ⟨⟨label, children⟩, trail⟩
  simp only [List.reverse_nil, List.nil_append] at he
  simp only [root, List.foldl_cons, he, Node.children, Node.label]

theorem root_parent {p q : Position} (h : p.parent? = some q) : q.root = p.root := by
  unfold parent? at h
  split at h
  · simp at h
  · next s trail ht =>
    simp only [Option.some.injEq] at h
    subst h
    simp [root, ht]

theorem root_next {wanted : Node → Bool} {p q : Position} (h : p.next? wanted = some q) :
    q.root = p.root := by
  unfold next? at h
  split at h
  · simp at h
  · next s trail ht =>
    obtain ⟨⟨b, n, a⟩, hs, rfl⟩ := Option.map_eq_some_iff.1 h
    have he := seek_eq hs
    simp only [List.reverse_cons, List.append_assoc, List.singleton_append] at he
    simp only [root, ht, List.foldl_cons, he]

theorem root_prev {wanted : Node → Bool} {p q : Position} (h : p.prev? wanted = some q) :
    q.root = p.root := by
  unfold prev? at h
  split at h
  · simp at h
  · next s trail ht =>
    obtain ⟨⟨b, n, a⟩, hs, rfl⟩ := Option.map_eq_some_iff.1 h
    have he := congrArg List.reverse (seek_eq hs)
    simp only [List.reverse_append, List.reverse_cons, List.reverse_reverse, List.append_assoc,
      List.singleton_append] at he
    simp only [root, ht, List.foldl_cons, he]

/-- Moving about never changes the tree. -/
theorem root_go (p : Position) (m : Move) : (p.go m).root = p.root := by
  unfold go
  cases h : p.go? m with
  | none => rfl
  | some q =>
    cases m with
    | childAt | namedChildAt => exact root_child h
    | field =>
      obtain ⟨f, _, hf⟩ := Option.bind_eq_some_iff.1 h
      exact root_child hf
    | parent => exact root_parent h
    | next | nextNamed => exact root_next h
    | prev | prevNamed => exact root_prev h

end Position
end Numscript
