import Numscript.Tree.Outline
import Numscript.Tree.Position

/-!
# Rows by number

Moving about in an outline: a move leads from the number of a row to that of another one, and is found by the
depths of the rows alone. The rows under a row are those behind it that stand deeper, as far as they follow one
another; its siblings are the rows of its depth before and behind it, up to a row that stands higher.
-/
namespace Numscript

/-- The rows before a position in the outline of its tree, told by the way from the root. -/
def Position.rowsBefore : List Branch → List Row
  | [] => []
  | s :: trail =>
    rowsBefore trail ++ ⟨trail.length, s.parent⟩ :: Node.rowsOfAll (trail.length + 1) s.before.reverse

/-- The number of the row that shows a position. -/
def Position.index (p : Position) : Nat := (rowsBefore p.trail).length

/-- The position that some moves lead to from the root. -/
def Position.along (root : Node) (moves : List Move) : Position := moves.foldl go (.ofRoot root)

namespace Row

/-- The rows one level deeper under row `i`, which stands at a depth, with their numbers. -/
def children (rows : List Row) (depth i : Nat) : List (Row × Nat) :=
  ((rows.zipIdx.drop (i + 1)).takeWhile fun r => depth < r.1.depth).filter fun r => r.1.depth = depth + 1

/-- The siblings behind row `i`, which stands at a depth, with their numbers. -/
def after (rows : List Row) (depth i : Nat) : List (Row × Nat) :=
  ((rows.zipIdx.drop (i + 1)).takeWhile fun r => depth ≤ r.1.depth).filter fun r => r.1.depth = depth

/-- The siblings before row `i`, which stands at a depth, with their numbers, the nearest first. -/
def before (rows : List Row) (depth i : Nat) : List (Row × Nat) :=
  ((rows.zipIdx.take i).reverse.takeWhile fun r => depth ≤ r.1.depth).filter fun r => r.1.depth = depth

/-- The row over row `i`, which stands at a depth, with its number: the nearest one before that stands higher. -/
def parent? (rows : List Row) (depth i : Nat) : Option (Row × Nat) :=
  (rows.zipIdx.take i).reverse.find? fun r => r.1.depth < depth

/-- Whether a row shows a named node. -/
def isNamed (r : Row) : Bool := r.label.symbol.isNamed

/-- The row that a move leads to from row `i`, which stands at a depth, with its number. -/
def reached? (rows : List Row) (depth i : Nat) : Move → Option (Row × Nat)
  | .childAt k => (children rows depth i)[k.toNat]?
  | .namedChildAt k => ((children rows depth i).filter (·.1.isNamed))[k.toNat]?
  | .field name => (children rows depth i).find? fun r => r.1.label.field.map Field.label = some name
  | .parent => parent? rows depth i
  | .next => (after rows depth i).head?
  | .prev => (before rows depth i).head?
  | .nextNamed => (after rows depth i).find? (·.1.isNamed)
  | .prevNamed => (before rows depth i).find? (·.1.isNamed)

/-- The number of the row that a move leads to from row `i`. -/
def target? (rows : List Row) (i : Nat) (m : Move) : Option Nat :=
  rows[i]?.bind fun r => (reached? rows r.depth i m).map (·.2)

/-- The number after a move; where the move fails, nothing changes. -/
def go (rows : List Row) (i : Nat) (m : Move) : Nat := (target? rows i m).getD i

/-- The number that some moves lead to from the first row. -/
def along (rows : List Row) (moves : List Move) : Nat := moves.foldl (go rows) 0

end Row
end Numscript
