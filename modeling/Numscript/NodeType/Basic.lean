import Numscript.Symbol.Symbol

/-!
# Kinds of node

What a kind of node can have below it: for each field, and for the children without a field, the
kinds that may stand there and how often. Comments may stand anywhere and are not counted.
-/
namespace Numscript

/-- The kinds of node that may fill a field, or be children without a field. -/
structure Slot where
  /-- Whether more than one node may stand here. -/
  multiple : Bool
  /-- Whether at least one node stands here. -/
  required : Bool
  kinds : List Symbol
  deriving DecidableEq, Repr

/-- What stands below a kind of node. -/
structure Shape where
  fields : List (Field × Slot)
  /-- The named children that have no field, if there can be any. -/
  children : Option Slot
  deriving DecidableEq, Repr

/-- A kind of node; kinds that are tokens have no shape. -/
structure NodeType where
  symbol : Symbol
  shape : Option Shape
  deriving DecidableEq, Repr

namespace Slot

/-- One node of one of these kinds. -/
def one (kinds : List Symbol) : Slot := ⟨false, true, kinds⟩

/-- At most one node of one of these kinds. -/
def atMostOne (kinds : List Symbol) : Slot := ⟨false, false, kinds⟩

/-- One node or more of these kinds. -/
def oneOrMore (kinds : List Symbol) : Slot := ⟨true, true, kinds⟩

/-- Any number of nodes of these kinds. -/
def anyNumber (kinds : List Symbol) : Slot := ⟨true, false, kinds⟩

end Slot

namespace NodeType

/-- A kind that is a token. -/
def token (t : Terminal) : NodeType := ⟨.terminal t, none⟩

/-- A kind of phrase with children that have no field. -/
def plain (n : Nonterminal) (children : Slot) : NodeType :=
  ⟨.nonterminal n, some ⟨[], some children⟩⟩

/-- A kind of phrase with fields. -/
def fielded (n : Nonterminal) (fields : List (Field × Slot)) (children : Option Slot) :
    NodeType :=
  ⟨.nonterminal n, some ⟨fields, children⟩⟩

end NodeType
end Numscript
