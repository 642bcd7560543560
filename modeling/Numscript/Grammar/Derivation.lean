import Numscript.Grammar.Lexeme
import Numscript.Grammar.Rule
import Numscript.Tree.Form

/-!
# Derivations

A form derives from the grammar when the text of each token is one of its lexemes, and the children
of each phrase, comments left out, follow its rule. An alias shows in place of a symbol and derives
as that symbol does. Comments may stand anywhere and have to be lexemes too.

`Derives` states this, and `Form.derives` decides it.
-/
namespace Numscript.Grammar

/-- The symbol that an alias stands for; every other symbol stands for itself. -/
def unaliased : Symbol → Symbol
  | .alias .sentLiteral => .nonterminal .valueExpr
  | .alias .accountVar => .terminal .variableName
  | s => s

/-- What a rule sees of the children of a form. -/
def items (children : List Form) : List Item :=
  (children.filter fun c => !c.isComment).map fun c => ⟨c.symbol, c.field⟩

/-- Whether two items are the same. -/
def sameItem (a b : Item) : Bool := a = b

/-- A form derives from the grammar. -/
inductive Derives : Form → Prop where
  | token {s : Symbol} {t : Terminal} {f : Option Field} {text : List Glyph}
      (shows : unaliased s = .terminal t) (lexeme : IsLexeme t text) :
      Derives (.mk s f text [])
  | phrase {s : Symbol} {n : Nonterminal} {f : Option Field} {children : List Form}
      (shows : unaliased s = .nonterminal n)
      (follows : (rule n).Fits sameItem (items children))
      (below : ∀ c ∈ children, Derives c) :
      Derives (.mk s f [] children)

mutual

/-- Whether a form derives from the grammar. -/
def derives : Form → Bool
  | .mk s _ text children =>
    match unaliased s with
    | .terminal t => children.isEmpty && (lexeme t).accepts satisfies text
    | .nonterminal n =>
      text.isEmpty && (rule n).accepts sameItem (items children) && deriveAll children
    | .alias _ | .error => false

/-- Whether all forms of a list derive from the grammar. -/
def deriveAll : List Form → Bool
  | [] => true
  | f :: rest => derives f && deriveAll rest

end

end Numscript.Grammar
