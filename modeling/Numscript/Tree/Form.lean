import Numscript.Tree.Node
import Numscript.Text.Point

/-!
# Forms

The form of a tree is what is left of it without places: the symbols, the fields, the nesting, and
the texts of the tokens. Two texts that differ in white space alone have trees of the same form.
-/
namespace Numscript

/-- A tree without places. Only tokens have a text. -/
inductive Form where
  | mk (symbol : Symbol) (field : Option Field) (text : List Glyph) (children : List Form)
  deriving Repr

namespace Form

/-- What the form shows as. -/
def symbol : Form → Symbol
  | .mk symbol _ _ _ => symbol

/-- The field of the form in its parent. -/
def field : Form → Option Field
  | .mk _ field _ _ => field

/-- The text of a token. -/
def text : Form → List Glyph
  | .mk _ _ text _ => text

/-- The children of the form. -/
def children : Form → List Form
  | .mk _ _ _ children => children

/-- Comments are the forms that belong to no rule. -/
def isComment (f : Form) : Bool :=
  f.symbol = .terminal .lineComment || f.symbol = .terminal .multilineComment

/-- The children that are no comments. -/
def structural (f : Form) : List Form := f.children.filter fun c => !c.isComment

mutual

/-- The form without any comments below it. -/
def withoutComments : Form → Form
  | .mk symbol field text children => .mk symbol field text (dropComments children)

/-- Forms without comments among or below them. -/
def dropComments : List Form → List Form
  | [] => []
  | f :: rest => if f.isComment then dropComments rest else f.withoutComments :: dropComments rest

end

mutual

/-- The texts of the tokens, in order. -/
def leaves : Form → List (List Glyph)
  | .mk _ _ text [] => if text.isEmpty then [] else [text]
  | .mk _ _ _ (f :: rest) => f.leaves ++ leavesOfAll rest

/-- The texts of the tokens below a list of forms, in order. -/
def leavesOfAll : List Form → List (List Glyph)
  | [] => []
  | f :: rest => f.leaves ++ leavesOfAll rest

end

/-- The form as a text: its tokens, each on a line of its own. -/
def printed (f : Form) : List Glyph := (f.leaves.intersperse [.lineFeed]).flatten

end Form

mutual

/-- The form of a node in a text. -/
def Node.form (source : List Glyph) : Node → Form
  | .mk label children =>
    .mk label.symbol label.field
      (if children.isEmpty then Glyph.between label.start.byte label.stop.byte source else [])
      (Node.forms source children)

/-- The forms of nodes in a text. -/
def Node.forms (source : List Glyph) : List Node → List Form
  | [] => []
  | n :: rest => n.form source :: Node.forms source rest

end

end Numscript
