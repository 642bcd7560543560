import Numscript.Tree.Node

/-!
# S-expressions

The named nodes of a tree as one line: each node in parentheses, with its kind and its named
children, and before it the field it has in its parent. Anonymous nodes do not show, nor do their
fields.
-/
namespace Numscript.Node

mutual

/-- A named node as an S-expression, and nothing for an anonymous one. -/
def expressions : Node → List String
  | .mk label children =>
    if label.symbol.isNamed then
      let field := match label.field with
        | some f => f.label ++ ": "
        | none => ""
      [field ++ "(" ++ " ".intercalate (label.symbol.name :: expressionsOfAll children) ++ ")"]
    else []

/-- The named nodes of a list as S-expressions. -/
def expressionsOfAll : List Node → List String
  | [] => []
  | n :: rest => n.expressions ++ expressionsOfAll rest

end

/-- The S-expression of a named node. -/
def expression (n : Node) : String := "".intercalate n.expressions

end Numscript.Node
