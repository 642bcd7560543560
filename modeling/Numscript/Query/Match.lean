import Numscript.Query.Pattern
import Numscript.Tree.Node

/-!
# Matching patterns

`Pattern.matches` answers every way in which a pattern fits a node, each with the nodes that it
captures.
-/
namespace Numscript.Query

/-- A name and the node captured under it. -/
structure Capture where
  name : String
  node : Node
  deriving Repr

/-- Each element of a list together with those that follow it. -/
def followed {α : Type} : List α → List (α × List α)
  | [] => []
  | a :: rest => (a, rest) :: followed rest

namespace Pattern

mutual

/-- The ways in which a pattern fits a node. -/
def fits : Pattern → Node → List (List Capture)
  | .any, _ => [[]]
  | .named symbol children, n =>
    if n.isNamed && symbol.all (n.symbol = ·) then fitsAmong children n.children else []
  | .anonymous symbol, n => if n.symbol = symbol then [[]] else []
  | .choice options, n => fitsOne options n
  | .inField field pattern, n => if n.field = some field then pattern.fits n else []
  | .capture pattern name, n => (pattern.fits n).map (⟨name, n⟩ :: ·)

/-- The ways in which one of several patterns fits a node. -/
def fitsOne : List Pattern → Node → List (List Capture)
  | [], _ => []
  | p :: rest, n => p.fits n ++ fitsOne rest n

/-- The ways in which patterns fit some of the nodes, one after another. -/
def fitsAmong : List Pattern → List Node → List (List Capture)
  | [], _ => [[]]
  | p :: rest, nodes =>
    (followed nodes).flatMap fun (n, after) =>
      (p.fits n).flatMap fun found => (fitsAmong rest after).map (found ++ ·)

end

end Pattern
end Numscript.Query
