import Numscript.Query.Pattern

/-!
# Places for children

A pattern for a node with children asks for them in an order. The order is kept as a row of places,
which are filled from the left. A choice lays its options side by side: the first place of an option
points to the next option, and a gap behind the option leads past the others.

The parts of a pattern are counted in the order in which they are written, from zero on, and a
capture counts as one with what it captures. A place knows the part that starts there.
-/
namespace Numscript.Query

/-- What a child must be to fill a place. -/
inductive Wanted where
  | any
  | anyNamed
  | symbol (s : Symbol)
  deriving DecidableEq, Repr

namespace Wanted

/-- Whether a symbol that shows is what is wanted. -/
def admits : Wanted → Symbol → Bool
  | .any, _ => true
  | .anyNamed, shown => shown.isNamed
  | .symbol s, shown => s = shown

end Wanted

/-- A place in a row, and where it leads apart from the place behind it. -/
inductive Place where
  /-- A child, which may have to stand in a field; another option may start further on. -/
  | child (wanted : Wanted) (field : Option Field) (other : Option Nat) (part : Nat)
  /-- The end of an option; what follows the choice is further on. -/
  | gap (onward : Nat)
  deriving DecidableEq, Repr

namespace Place

/-- A row that starts with a part of its own. -/
def startingAt (part : Nat) : List Place → List Place
  | .child wanted field other _ :: rest => .child wanted field other part :: rest
  | row => row

/-- A row whose first place points to another option. -/
def withOther (distance : Nat) : List Place → List Place
  | .child wanted field _ part :: rest => .child wanted field (some distance) part :: rest
  | row => row

/-- A row with a field for its first place behind `skip`, and for the options it points to. -/
def inField (field : Field) : (skip : Nat) → List Place → List Place
  | _, [] => []
  | skip + 1, p :: rest => p :: inField field skip rest
  | 0, .child wanted _ other part :: rest =>
    .child wanted (some field) other part ::
      match other with
      | some distance => inField field (distance - 1) rest
      | none => rest
  | 0, row => row

/--
The places at which one may go on, from the place behind `skip` and `index` more. The number behind
the last place stands for the end of the row.
-/
def stopsFrom (index : Nat) : (skip : Nat) → List Place → List Nat
  | _, [] => [index]
  | skip + 1, _ :: rest => stopsFrom (index + 1) skip rest
  | 0, .gap onward :: rest => stopsFrom (index + 1) (onward - 1) rest
  | 0, .child _ _ other _ :: rest =>
    index ::
      match other with
      | some distance => stopsFrom (index + 1) (distance - 1) rest
      | none => []

/-- The places at which one may go on from a place of a row. -/
def stops (row : List Place) (index : Nat) : List Nat := stopsFrom 0 index row

end Place

namespace Pattern

mutual

/-- The number of parts of a pattern. -/
def size : Pattern → Nat
  | .any | .anonymous _ => 1
  | .named _ children => 1 + sizeOfAll children
  | .choice options => 1 + sizeOfAll options
  | .inField _ pattern => 1 + pattern.size
  | .capture pattern _ => pattern.size

/-- The number of parts of several patterns. -/
def sizeOfAll : List Pattern → Nat
  | [] => 0
  | p :: rest => p.size + sizeOfAll rest

end

mutual

/-- The places for what a pattern asks for, if its parts are counted from `part` on. -/
def places (part : Nat) : Pattern → List Place
  | .any => [.child .any none none part]
  | .named none _ => [.child .anyNamed none none part]
  | .named (some s) _ => [.child (.symbol s) none none part]
  | .anonymous s => [.child (.symbol s) none none part]
  | .choice options => Place.startingAt part (placesOfOptions (part + 1) options)
  | .inField field pattern =>
    Place.startingAt part (Place.inField field 0 (pattern.places (part + 1)))
  | .capture pattern _ => pattern.places part

/-- The places for what one of several patterns asks for. -/
def placesOfOptions (part : Nat) : List Pattern → List Place
  | [] => []
  | [p] => p.places part
  | p :: q :: rest =>
    let option := p.places part
    let more := placesOfOptions (part + p.size) (q :: rest)
    Place.withOther (option.length + 1) option ++ .gap (more.length + 1) :: more

end

/-- The places for what several patterns ask for one after another. -/
def placesOfAll (part : Nat) : List Pattern → List Place
  | [] => []
  | p :: rest => p.places part ++ placesOfAll (part + p.size) rest

end Pattern

/-- A kind of node, and the places for the children asked of it. -/
structure Demand where
  kind : Symbol
  row : List Place
  deriving Repr

namespace Pattern

mutual

/-- What a pattern asks of the children of nodes whose kind it names. -/
def demands (part : Nat) : Pattern → List Demand
  | .any | .anonymous _ => []
  | .named (some s) (child :: rest) =>
    ⟨s, placesOfAll (part + 1) (child :: rest)⟩ :: demandsOfAll (part + 1) (child :: rest)
  | .named _ children => demandsOfAll (part + 1) children
  | .choice options => demandsOfAll (part + 1) options
  | .inField _ pattern => pattern.demands (part + 1)
  | .capture pattern _ => pattern.demands part

/-- What several patterns ask of the children of nodes whose kind they name. -/
def demandsOfAll (part : Nat) : List Pattern → List Demand
  | [] => []
  | p :: rest => p.demands part ++ demandsOfAll (part + p.size) rest

end

end Pattern
end Numscript.Query
