import Numscript.Proofs.Parser.Found
import Numscript.Proofs.Parser.Sift

/-!
# Trees that are moved

A text that is put behind another one that ends with a line feed keeps its columns, and its tokens move by
the bytes and the rows before them. Nothing else of a tree changes when its tokens are moved.
-/
namespace Numscript

/-- A point of a text that begins at another point, the start of a row. -/
def Point.moved (p start : Point) : Point := ⟨start.byte + p.byte, start.row + p.row, p.column⟩

theorem Point.behind_moved {start : Point} (fresh : start.column = 0) (text : List Glyph) :
    start.behind text = (Point.origin.behind text).moved start := by
  have hafter : ∀ (p : Point) (g : Glyph), (p.moved start).after g = (p.after g).moved start := by
    intro p g
    unfold after
    split <;> simp [moved, Nat.add_assoc, *]
  have hbehind : ∀ p : Point, (p.moved start).behind text = (p.behind text).moved start := by
    induction text with
    | nil => exact fun _ => rfl
    | cons g text ih =>
      intro p
      rw [behind, List.foldl_cons, hafter]
      exact ih (p.after g)
  have horigin : origin.moved start = start := by
    obtain ⟨byte, row, column⟩ := start
    obtain rfl : column = 0 := fresh
    rfl
  rw [← hbehind, horigin]

/-- A token of a text that begins at a point. -/
def Token.moved (start : Point) (t : Token) : Token :=
  ⟨t.kind, t.start.moved start, t.stop.moved start⟩

/-- What a node of a text that begins at a point shows. -/
def Label.moved (start : Point) (l : Label) : Label :=
  { l with start := l.start.moved start, stop := l.stop.moved start }

namespace Node

mutual

/-- A node of a text that begins at a point. -/
def moved (start : Point) : Node → Node
  | .mk label children => .mk (label.moved start) (movedAll start children)

/-- Nodes of a text that begins at a point. -/
def movedAll (start : Point) : List Node → List Node
  | [] => []
  | n :: rest => n.moved start :: movedAll start rest

end

theorem movedAll_eq (start : Point) (nodes : List Node) :
    movedAll start nodes = nodes.map (·.moved start) := by
  induction nodes with
  | nil => rfl
  | cons n nodes ih => rw [movedAll, ih, List.map_cons]

/-- A phrase over nodes is moved with them. -/
theorem moved_spanning {start : Point} {nodes : List Node} (inhabited : nodes ≠ []) (symbol : Symbol)
    (field : Option Field) (place place' : Point) :
    (spanning symbol field place nodes).moved start =
      spanning symbol field place' (nodes.map (·.moved start)) := by
  obtain ⟨n, more, rfl⟩ := List.exists_cons_of_ne_nil inhabited
  have hlabel : ∀ n : Node, (n.moved start).label = n.label.moved start := by
    rintro ⟨_, _⟩
    rfl
  rw [spanning, spanning, moved, movedAll_eq, List.getLast?_map]
  cases hlast : (n :: more).getLast? with
  | none => simp at hlast
  | some last => simp [Label.moved, hlabel]

end Node

namespace Tree

mutual

/-- A tree of a text that begins at a point. -/
def moved (start : Point) : Tree → Tree
  | .leaf token => .leaf (token.moved start)
  | .node phrase layout children => .node phrase layout (movedAll start children)

/-- Trees of a text that begins at a point. -/
def movedAll (start : Point) : List Tree → List Tree
  | [] => []
  | t :: rest => t.moved start :: movedAll start rest

end

variable (start : Point)

theorem movedAll_eq (trees : List Tree) : movedAll start trees = trees.map (·.moved start) := by
  induction trees with
  | nil => rfl
  | cons t trees ih => rw [movedAll, ih, List.map_cons]

@[simp] theorem isComment_moved (t : Tree) : (t.moved start).isComment = t.isComment := by
  cases t <;> rfl

@[simp] theorem symbol_moved (t : Tree) : (t.moved start).symbol = t.symbol := by
  cases t <;> rfl

theorem structural_moved (trees : List Tree) :
    structural (trees.map (·.moved start)) = structural trees := by
  simp [structural, List.filter_map, Function.comp_def]

mutual

theorem sifted_moved : (t : Tree) → (t.moved start).sifted = t.sifted.moved start
  | .leaf _ => rfl
  | .node phrase layout children => by
    rw [moved, sifted, sifted, moved, siftedAll_moved children]

theorem siftedAll_moved : (trees : List Tree) →
    siftedAll (movedAll start trees) = movedAll start (siftedAll trees)
  | [] => rfl
  | t :: rest => by
    rw [movedAll, siftedAll, siftedAll, isComment_moved, siftedAll_moved rest]
    split
    · rfl
    · rw [movedAll, sifted_moved t]

theorem tokens_moved : (t : Tree) → (t.moved start).tokens = t.tokens.map (·.moved start)
  | .leaf _ => rfl
  | .node phrase layout children => by rw [moved, tokens, tokens, tokensOfAll_moved children]

theorem tokensOfAll_moved : (trees : List Tree) →
    tokensOfAll (movedAll start trees) = (tokensOfAll trees).map (·.moved start)
  | [] => rfl
  | t :: rest => by
    rw [movedAll, tokensOfAll, tokensOfAll, List.map_append, tokens_moved t, tokensOfAll_moved rest]

end

mutual

/-- A tree that is moved is a copy, as far as one can tell from an empty text. -/
theorem copy_moved : (t : Tree) → Copy [] [] t (t.moved start)
  | .leaf _ => .leaf ⟨rfl, rfl⟩
  | .node _ _ children => .node (copyAll_moved children)

theorem copyAll_moved : (trees : List Tree) → CopyAll [] [] trees (movedAll start trees)
  | [] => .nil
  | t :: rest => .cons (copy_moved t) (copyAll_moved rest)

end

theorem Lone.of_moved {t : Tree} (h : (t.moved start).Lone) : t.Lone :=
  (copy_moved start t).lone h

theorem Trimmed.moved {t : Tree} (h : t.Trimmed) : (t.moved start).Trimmed := by
  induction h with
  | leaf => exact .leaf _
  | @node _ _ children first last _ ih =>
    rw [Tree.moved, movedAll_eq]
    refine .node ?_ ?_ ?_
    · simpa using first
    · simpa using last
    · simpa using ih

theorem Spelt.moved {t : Tree} (h : t.Spelt) : (t.moved start).Spelt := by
  induction h with
  | leaf => exact .leaf _
  | node spelt symbols _ ih =>
    rw [Tree.moved, movedAll_eq]
    exact .node spelt ((structural_moved start _).trans symbols) (by simpa using ih)

end Tree
end Numscript
