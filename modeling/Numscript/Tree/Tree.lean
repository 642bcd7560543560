import Numscript.Symbol.Symbol
import Numscript.Lexer.Token

/-!
# Syntax trees

The tree as the parser builds it: tokens, and phrases with their children. Comments stand among
the children. Repetitions are still phrases here.
-/
namespace Numscript

/-- A token, or a phrase over its children. -/
inductive Tree where
  | leaf (token : Token)
  | node (phrase : Nonterminal) (layout : Layout) (children : List Tree)
  deriving Repr

namespace Tree

/-- Comments belong to no phrase of the grammar. -/
def isComment : Tree → Bool
  | .leaf token => token.kind.isComment
  | .node .. => false

/-- The symbol a tree is built for. -/
def symbol : Tree → Symbol
  | .leaf token => .terminal token.kind
  | .node phrase .. => .nonterminal phrase

/-- What a tree shows as in a place. -/
def shownSymbol (t : Tree) (name : Option Alias) : Symbol := (name.map Symbol.alias).getD t.symbol

/-- The token of a leaf. -/
def token? : Tree → Option Token
  | .leaf token => some token
  | .node .. => none

end Tree
end Numscript
