import Numscript.Tree.Tree

/-!
# Nodes

The tree as it shows: repetitions are gone and their items stand in their place, aliases stand for
the symbols they hide, and children carry their fields. A node spans from the start of its first
child to the end of its last one. The root also takes the white space at the end of the text.
-/
namespace Numscript

/-- What a node shows of itself. -/
structure Label where
  symbol : Symbol
  /-- The field the node has in its parent. -/
  field : Option Field
  /-- Whether the node is a comment. -/
  extra : Bool
  start : Point
  stop : Point
  deriving DecidableEq, Repr

/-- A node of the visible tree. -/
inductive Node where
  | mk (label : Label) (children : List Node)
  deriving Repr

namespace Node

/-- What the node shows of itself. -/
def label : Node → Label
  | .mk label _ => label

/-- The children of the node, comments and anonymous tokens included. -/
def children : Node → List Node
  | .mk _ children => children

/-- The symbol of the node. -/
def symbol (n : Node) : Symbol := n.label.symbol

/-- Named nodes have a rule name, the others are named by their text. -/
def isNamed (n : Node) : Bool := n.symbol.isNamed

/-- The name of the node's kind. -/
def kind (n : Node) : String := n.symbol.name

/-- The field of the node in its parent. -/
def field (n : Node) : Option Field := n.label.field

/-- The children that are named. -/
def namedChildren (n : Node) : List Node := n.children.filter isNamed

/-- A node over children; without children it stands at `place`. -/
def spanning (symbol : Symbol) (field : Option Field) (place : Point) (children : List Node) :
    Node :=
  .mk ⟨symbol, field, false, (children.head?.map (·.label.start)).getD place,
    (children.getLast?.map (·.label.stop)).getD place⟩ children

end Node

namespace Tree

mutual

/-- The nodes that show for a tree in a place with these roles; several for a repetition. -/
def nodes (field : Option Field) (name : Option Alias) : Tree → List Node
  | .leaf token =>
    let symbol := (name.map Symbol.alias).getD (.terminal token.kind)
    [.mk ⟨symbol, field, token.kind.isComment, token.start, token.stop⟩ []]
  | .node phrase layout children =>
    let inner := nodesFrom layout 0 children
    if phrase.isRepetition then inner
    else [.spanning ((name.map Symbol.alias).getD (.nonterminal phrase)) field .origin inner]

/-- The nodes that show for the children from a place on, counted without comments. -/
def nodesFrom (layout : Layout) (place : Nat) : List Tree → List Node
  | [] => []
  | t :: rest =>
    if t.isComment then t.nodes none none ++ nodesFrom layout place rest
    else t.nodes (layout.field? place) (layout.alias? place) ++ nodesFrom layout (place + 1) rest

end

/-- The visible tree of a program in a text that ends at a point. -/
def program (textEnd : Point) : Tree → Node
  | .leaf token => .spanning (.terminal token.kind) none textEnd []
  | .node phrase layout children =>
    let inner := nodesFrom layout 0 children
    .mk ⟨.nonterminal phrase, none, false, (inner.head?.map (·.label.start)).getD textEnd,
      textEnd⟩ inner

end Tree
end Numscript
