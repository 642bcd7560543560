import Numscript.NodeType.Table
import Numscript.Tree.Node

/-!
# Conformance to the table of kinds

A node conforms to a kind when every field holds what its slot admits, and so do the named children without a
field. Comments do not count. Where a kind has no slot for a field, or for children, a node has none.
-/
namespace Numscript

/-- Nodes with these symbols fill a slot. -/
structure Slot.Holds (s : Slot) (symbols : List Symbol) : Prop where
  kinds : ∀ x ∈ symbols, x ∈ s.kinds
  required : s.required = true → symbols ≠ []
  single : s.multiple = false → symbols.length ≤ 1

/-- Nodes with these symbols fill a slot, and where there is no slot there are none. -/
def Slot.Holds? : Option Slot → (symbols : List Symbol) → Prop
  | some s, symbols => s.Holds symbols
  | none, symbols => symbols = []

namespace NodeType

/-- The slot that a kind has for a field. -/
def slot? (k : NodeType) (f : Field) : Option Slot := k.shape.bind fun s => s.fields.lookup f

/-- The slot that a kind has for named children without a field. -/
def childSlot? (k : NodeType) : Option Slot := k.shape.bind (·.children)

end NodeType

namespace Node

/-- The children in a field, comments left out. -/
def inField (n : Node) (f : Field) : List Node :=
  n.children.filter fun c => !c.label.extra && c.field = some f

/-- The named children without a field, comments left out. -/
def unlabelled (n : Node) : List Node :=
  n.children.filter fun c => !c.label.extra && (c.isNamed && c.field = none)

/-- A node is of a kind, and below it stands what the kind asks for. -/
structure Conforms (n : Node) (k : NodeType) : Prop where
  kind : k.symbol = n.symbol
  fields : ∀ f, Slot.Holds? (k.slot? f) ((n.inField f).map (·.symbol))
  children : Slot.Holds? k.childSlot? (n.unlabelled.map (·.symbol))

end Node
end Numscript
