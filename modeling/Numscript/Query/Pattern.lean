import Numscript.Symbol.Symbol
import Numscript.Text.Quoted

/-!
# Query patterns

A pattern says which nodes are looked for: nodes of a kind, with certain children among theirs,
anonymous nodes by their text, and nodes in a field. A capture gives a name to what is found.
`Pattern.text` writes a pattern as it stands in a query.
-/
namespace Numscript.Query

/-- What a query looks for. -/
inductive Pattern where
  /-- Any node at all. -/
  | any
  /-- A named node, of one kind if a kind is given, with these children in this order. -/
  | named (symbol : Option Symbol) (children : List Pattern)
  /-- An anonymous node. -/
  | anonymous (symbol : Symbol)
  /-- What one of several patterns looks for. -/
  | choice (options : List Pattern)
  /-- A node in a field of its parent. -/
  | inField (field : Field) (pattern : Pattern)
  /-- What the pattern finds, under a name. -/
  | capture (pattern : Pattern) (name : String)
  deriving Repr

namespace Pattern

mutual

/-- A pattern as it stands in a query. -/
def text : Pattern → String
  | .any => "_"
  | .named symbol children =>
    "(" ++ (symbol.map Symbol.name).getD "_" ++ textOfAll children ++ ")"
  | .anonymous symbol => Quoted.encode symbol.name
  | .choice options => "[" ++ textOfAll options ++ "\n]"
  | .inField field pattern => field.label ++ ": " ++ pattern.text
  | .capture pattern name => pattern.text ++ " @" ++ name

/-- Each pattern of a list on a line of its own. -/
def textOfAll : List Pattern → String
  | [] => ""
  | p :: rest => "\n  " ++ p.text ++ textOfAll rest

end

mutual

/-- The names of the captures in a pattern, in the order in which they are written. -/
def captureNames : Pattern → List String
  | .any | .anonymous _ => []
  | .named _ children => captureNamesOfAll children
  | .choice options => captureNamesOfAll options
  | .inField _ pattern => pattern.captureNames
  | .capture pattern name => pattern.captureNames ++ [name]

/-- The names of the captures in a list of patterns. -/
def captureNamesOfAll : List Pattern → List String
  | [] => []
  | p :: rest => p.captureNames ++ captureNamesOfAll rest

end

end Pattern

/-- The names that the patterns of a query capture, each where it is first used. -/
def captureNames (patterns : List Pattern) : List String :=
  (patterns.flatMap Pattern.captureNames).eraseDups

end Numscript.Query
