import Numscript.Tree.Node

/-!
# The outline of a tree

The nodes of a tree in order, each before its children, with the depth at which it stands; and the
tokens alone.
-/
namespace Numscript

/-- A node in an outline. -/
structure Row where
  depth : Nat
  label : Label
  deriving DecidableEq, Repr

namespace Node

mutual

/-- The rows of a node that stands at a depth. -/
def rows (depth : Nat) : Node → List Row
  | .mk label children => ⟨depth, label⟩ :: rowsOfAll (depth + 1) children

/-- The rows of a list of nodes that stand at a depth. -/
def rowsOfAll (depth : Nat) : List Node → List Row
  | [] => []
  | n :: rest => n.rows depth ++ rowsOfAll depth rest

end

/-- The outline of a tree, its root at depth zero. -/
def outline (n : Node) : List Row := n.rows 0

mutual

/-- The tokens of a tree, comments included, in order. -/
def leaves : Node → List Label
  | .mk label [] =>
    match label.symbol with
    | .nonterminal _ => []
    | _ => [label]
  | .mk _ (n :: rest) => n.leaves ++ leavesOfAll rest

/-- The tokens of a list of trees in order. -/
def leavesOfAll : List Node → List Label
  | [] => []
  | n :: rest => n.leaves ++ leavesOfAll rest

end

end Node

/-- The span of a node as text: row and column of its start and of its end. -/
def Label.span (l : Label) : String :=
  s!"{l.start.row}:{l.start.column}-{l.stop.row}:{l.stop.column}"

end Numscript
