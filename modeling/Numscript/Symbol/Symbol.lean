import Numscript.Symbol.Terminal
import Numscript.Symbol.Nonterminal
import Numscript.Symbol.Layout

/-!
# Symbols

Everything that can label a node: a terminal, a nonterminal, an alias, or the error symbol. Symbols
have numbers below 96, the error symbol has 65535. The kind of node that a query or a highlighter
asks for is found by name with `Symbol.find`.
-/
namespace Numscript

/-- What a node can be labelled with. -/
inductive Symbol where
  | terminal (t : Terminal)
  | nonterminal (n : Nonterminal)
  | alias (a : Alias)
  | error
  deriving DecidableEq, Repr

namespace Symbol

/-- The number of the error symbol, the last one of sixteen bits. -/
def errorIndex : Nat := 65535

/-- All symbols by number, without the error symbol. -/
def all : List Symbol :=
  Terminal.all.map .terminal ++ Nonterminal.all.map .nonterminal ++ Alias.all.map .alias

/-- The number of a symbol. -/
def index : Symbol → Nat
  | .terminal t => t.index
  | .nonterminal n => n.index
  | .alias a => a.index
  | .error => errorIndex

/-- The symbol with a number. -/
def ofIndex? (i : Nat) : Option Symbol := if i = errorIndex then some .error else all[i]?

/-- The name a symbol shows. -/
def name : Symbol → String
  | .terminal t => t.name
  | .nonterminal n => n.name
  | .alias a => a.name
  | .error => "ERROR"

/-- The end of the text and the repetitions do not show in a tree. -/
def isVisible : Symbol → Bool
  | .terminal t => t.isVisible
  | .nonterminal n => !n.isRepetition
  | .alias _ | .error => true

/-- Keywords and punctuation are anonymous, and so is what does not show. -/
def isNamed : Symbol → Bool
  | .terminal t => t.isNamed
  | .nonterminal n => !n.isRepetition
  | .alias _ | .error => true

/--
Whether a text asks for the error symbol. The text and the name of the symbol are compared as far
as both go, where a zero character closes the name: every text that begins the name does, the empty
one included, and so does the closed name with anything behind it.
-/
def asksForError (text : String) : Bool :=
  let closed := error.name.toList ++ ['\x00']
  text.toList.isPrefixOf closed || closed.isPrefixOf text.toList

/--
The number of the first visible symbol with a name and a namedness. A text that asks for the error
symbol finds it whatever the namedness; a name that nothing has finds zero.
-/
def find (text : String) (named : Bool) : Nat :=
  if asksForError text then errorIndex
  else
    match all.find? fun s => s.isVisible && s.isNamed = named && s.name = text with
    | some s => s.index
    | none => 0

end Symbol
end Numscript
