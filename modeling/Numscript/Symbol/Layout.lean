/-!
# Layouts

A phrase may give some of its children a role: a field, under which the child can be asked for, or
an alias, under which it is shown. Children are counted without comments. The layout of a phrase
says which child has which role.
-/
namespace Numscript

/-- The fields a child can have in its parent, by number; the numbers count from one. -/
inductive Field where
  | address | amount | asset | cap | left | maxOverdraft | name | op | right | type
  deriving DecidableEq, Repr

namespace Field

/-- All fields by number, from one on. -/
def all : List Field :=
  [.address, .amount, .asset, .cap, .left, .maxOverdraft, .name, .op, .right, .type]

/-- The name of a field. -/
def label : Field → String
  | .address => "address"
  | .amount => "amount"
  | .asset => "asset"
  | .cap => "cap"
  | .left => "left"
  | .maxOverdraft => "max_overdraft"
  | .name => "name"
  | .op => "op"
  | .right => "right"
  | .type => "type"

/-- The number of a field. -/
def index (f : Field) : Nat := f.ctorIdx + 1

/-- The field with a number. -/
def ofIndex? : Nat → Option Field
  | 0 => none
  | n + 1 => all[n]?

/-- The field with a name. -/
def ofLabel? (s : String) : Option Field := all.find? (·.label = s)

theorem mem_all (f : Field) : f ∈ all := by cases f <;> decide

end Field

/-- The names under which a child shows instead of its own. -/
inductive Alias where
  | sentLiteral | accountVar
  deriving DecidableEq, Repr

namespace Alias

/-- The aliases by number; the first one follows the last nonterminal. -/
def all : List Alias := [.sentLiteral, .accountVar]

/-- The name an alias shows. -/
def name : Alias → String
  | .sentLiteral => "sent_literal"
  | .accountVar => "account_var"

/-- The number of an alias. -/
def index (a : Alias) : Nat := 94 + a.ctorIdx

end Alias

/-- The ways in which the children of a phrase are given roles. -/
inductive Layout where
  /-- No child has a role. -/
  | plain
  /-- A type and the name declared with it. -/
  | declaration
  /-- A value that is sent, shown under an alias. -/
  | sentLiteral
  /-- An asset inside brackets. -/
  | bracketedAsset
  /-- A variable inside an account name, shown under an alias. -/
  | accountVariable
  /-- An asset and an amount inside brackets. -/
  | monetary
  /-- An operator between two operands. -/
  | operation
  /-- The name of a function before its arguments. -/
  | call
  /-- The address of an account that may go below zero without bound. -/
  | unboundedOverdraft
  /-- An address, its colour, and the limit of its overdraft. -/
  | colouredOverdraft
  /-- An address and the limit of its overdraft. -/
  | boundedOverdraft
  /-- The cap of a source. -/
  | capped
  deriving DecidableEq, Repr

namespace Layout

/-- All layouts by number. -/
def all : List Layout :=
  [.plain, .declaration, .sentLiteral, .bracketedAsset, .accountVariable, .monetary, .operation,
   .call, .unboundedOverdraft, .colouredOverdraft, .boundedOverdraft, .capped]

/-- The number of a layout. -/
def index (l : Layout) : Nat := l.ctorIdx

theorem all_index (l : Layout) : all[l.index]? = some l := by cases l <;> rfl

theorem mem_all (l : Layout) : l ∈ all := List.mem_of_getElem? (all_index l)

/-- The field of the child at a place, counted without comments. -/
def field? : Layout → Nat → Option Field
  | .declaration, 0 => some .type
  | .declaration, 1 => some .name
  | .bracketedAsset, 1 => some .asset
  | .monetary, 1 => some .asset
  | .monetary, 2 => some .amount
  | .operation, 0 => some .left
  | .operation, 1 => some .op
  | .operation, 2 => some .right
  | .call, 0 => some .name
  | .unboundedOverdraft, 0 => some .address
  | .colouredOverdraft, 0 => some .address
  | .colouredOverdraft, 6 => some .maxOverdraft
  | .boundedOverdraft, 0 => some .address
  | .boundedOverdraft, 5 => some .maxOverdraft
  | .capped, 1 => some .cap
  | _, _ => none

/-- The alias of the child at a place, counted without comments. -/
def alias? : Layout → Nat → Option Alias
  | .sentLiteral, 0 => some .sentLiteral
  | .accountVariable, 0 => some .accountVar
  | _, _ => none

end Layout
end Numscript
