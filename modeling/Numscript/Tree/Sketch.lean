import Numscript.Tree.Expression
import Numscript.Tree.Outline

/-!
# Sketches

The sketch of a tree is what its S-expression shows: the named nodes with their kinds, their fields and their
nesting. A text is read as a sketch letter by letter. A word behind an opening parenthesis names a node, one
before a colon the field of the next node.
-/
namespace Numscript

/-- A symbol with a rule name. -/
abbrev NamedSymbol := { s : Symbol // s.isNamed = true }

/-- The symbol with a rule name. -/
def NamedSymbol.ofName? (text : String) : Option NamedSymbol :=
  ((Symbol.error :: Symbol.all).find? fun s => s.isNamed && s.name = text).bind fun s =>
    if h : s.isNamed = true then some ⟨s, h⟩ else none

/-- A tree of named nodes. -/
inductive Sketch where
  | mk (field : Option Field) (symbol : NamedSymbol) (children : List Sketch)
  deriving Repr

mutual

/-- The named nodes of a tree: itself with those among its children, if it is named. -/
def Node.sketches : Node → List Sketch
  | .mk label children =>
    if h : label.symbol.isNamed = true then
      [.mk label.field ⟨label.symbol, h⟩ (Node.sketchesOfAll children)]
    else []

/-- The named nodes of a list of trees. -/
def Node.sketchesOfAll : List Node → List Sketch
  | [] => []
  | n :: rest => n.sketches ++ Node.sketchesOfAll rest

end

namespace Sketch

/-- A node in the outline of a sketch. -/
structure Row where
  depth : Nat
  field : Option Field
  symbol : Symbol
  deriving DecidableEq, Repr

mutual

/-- The rows of a sketch that stands at a depth. -/
def rows (depth : Nat) : Sketch → List Row
  | .mk field symbol children => ⟨depth, field, symbol⟩ :: rowsOfAll (depth + 1) children

/-- The rows of a list of sketches that stand at a depth. -/
def rowsOfAll (depth : Nat) : List Sketch → List Row
  | [] => []
  | s :: rest => s.rows depth ++ rowsOfAll depth rest

end

/-- What stands before a node in a field. -/
def fieldText : Option Field → String
  | some f => f.label ++ ": "
  | none => ""

mutual

/-- A sketch as an S-expression. -/
def text : Sketch → String
  | .mk field symbol children =>
    fieldText field ++ "(" ++ " ".intercalate (symbol.1.name :: textOfAll children) ++ ")"

/-- Sketches as S-expressions. -/
def textOfAll : List Sketch → List String
  | [] => []
  | s :: rest => s.text :: textOfAll rest

end

/-- A node that was opened: what it is, and the sketches before it, the nearest first. -/
structure Opening where
  field : Option Field
  symbol : NamedSymbol
  before : List Sketch
  deriving Repr

/-- What is known of a text that was read up to some letter. -/
structure Reader where
  /-- The letters of the word at the end, the last one first. -/
  word : List Char
  /-- Whether the word names a node. -/
  naming : Bool
  /-- The field of the next node. -/
  field : Option Field
  /-- The sketches that are complete here, the nearest first. -/
  before : List Sketch
  /-- The nodes that are open, the innermost first. -/
  trail : List Opening
  deriving Repr

namespace Reader

/-- The reader before the first letter. -/
def initial : Reader := ⟨[], false, none, [], []⟩

/-- The word at the end is complete. If it names a node, the node is open. -/
def settle (r : Reader) : Option Reader :=
  if r.naming then do
    let symbol ← NamedSymbol.ofName? (String.ofList r.word.reverse)
    return ⟨[], false, none, [], ⟨r.field, symbol, r.before⟩ :: r.trail⟩
  else if r.word.isEmpty then some r else none

/-- The innermost node is complete. -/
def close (r : Reader) : Option Reader :=
  match r.trail with
  | [] => none
  | o :: trail => some ⟨[], false, none, .mk o.field o.symbol r.before.reverse :: o.before, trail⟩

/-- Reads one letter. -/
def step (r : Reader) (c : Char) : Option Reader :=
  if c = '(' then if r.word.isEmpty && !r.naming then some { r with naming := true } else none
  else if c = ')' then r.settle.bind close
  else if c = ' ' then r.settle
  else if c = ':' then
    if r.naming then none
    else (Field.ofLabel? (String.ofList r.word.reverse)).map fun f => { r with word := [], field := some f }
  else some { r with word := c :: r.word }

end Reader

/-- The sketch that a text shows. -/
def ofString? (text : String) : Option Sketch := do
  match ← text.toList.foldlM Reader.step .initial with
  | ⟨[], false, none, [s], []⟩ => some s
  | _ => none

end Sketch

/-- What a sketch shows of a row. -/
def Row.sketch (r : Row) : Sketch.Row := ⟨r.depth, r.label.field, r.label.symbol⟩

/-- The named ones among some rows, as a sketch shows them. -/
def Row.namedOnes (rows : List Row) : List Sketch.Row :=
  (rows.filter (·.label.symbol.isNamed)).map sketch

/-- The named rows in the outline of a tree. -/
def Node.namedRows (root : Node) : List Sketch.Row := Row.namedOnes root.outline

end Numscript
