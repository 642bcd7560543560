import Numscript.Symbol.Terminal
import Numscript.Symbol.Nonterminal
import Numscript.Symbol.Layout

/-!
# States of the parsing automaton

A state says what to do with the next token: push it and go to another state, or reduce the
phrase that ends before it. After a reduction the state below the phrase says where to go. Where a
state both pushes and reduces on one token, both readings are followed.

Many states stand before a value, and values of one kind of slot lead to the same states. A
`ValueSlot` holds where the first symbol of a value leads in one kind of slot.
-/
namespace Numscript.Automaton

/-- A reduction: the phrase that is complete, how many children it has, and their roles. -/
structure Reduction where
  phrase : Nonterminal
  arity : Nat
  layout : Layout
  deriving DecidableEq, Repr

/-- A state of the parsing automaton. -/
structure State where
  /-- The lexer state that reads the next token. -/
  mode : Nat
  /-- The number of the first state that differs from this one in lookaheads only. -/
  core : Nat
  /-- The tokens that are pushed, and the states they lead to. -/
  shifts : List (Terminal × Nat)
  /-- The reductions, and the tokens before which they are made. -/
  reductions : List (Reduction × List Terminal)
  /-- The states that complete phrases lead to. -/
  gotos : List (Nonterminal × Nat)
  deriving Repr

namespace State

/-- A state at the end of a phrase: there is one reduction and nothing else. -/
def complete (mode core : Nat) (phrase : Nonterminal) (arity : Nat) (layout : Layout)
    (before : List Terminal) : State :=
  ⟨mode, core, [], [(⟨phrase, arity, layout⟩, before)], []⟩

/-- Where pushing a token leads. -/
def shift? (s : State) (t : Terminal) : Option Nat := s.shifts.lookup t

/-- The reduction made before a token. -/
def reduction? (s : State) (t : Terminal) : Option Reduction :=
  (s.reductions.find? fun r => r.2.contains t).map (·.1)

/-- Where a complete phrase leads. -/
def goto? (s : State) (n : Nonterminal) : Option Nat := s.gotos.lookup n

end State

/-- Where the first symbol of a value leads, in one kind of slot that a value can fill. -/
structure ValueSlot where
  lparen : Nat
  lbracket : Nat
  atSign : Nat
  kwOverdraft : Nat
  variableName : Nat
  identifier : Nat
  number : Nat
  asset : Nat
  percentagePortion : Nat
  string : Nat
  variableExpr : Nat
  assetLiteral : Nat
  stringLiteral : Nat
  accountLiteral : Nat
  numberLiteral : Nat
  percentagePortionLiteral : Nat
  monetaryLiteral : Nat
  infixExpr : Nat
  parenthesizedExpr : Nat
  application : Nat
  functionCall : Nat

namespace ValueSlot

/-- Where the tokens lead that a value can start with, and more tokens. -/
def shifts (v : ValueSlot) (more : List (Terminal × Nat)) : List (Terminal × Nat) :=
  [(.lparen, v.lparen), (.lbracket, v.lbracket), (.atSign, v.atSign),
   (.kwOverdraft, v.kwOverdraft), (.variableName, v.variableName), (.identifier, v.identifier),
   (.number, v.number), (.asset, v.asset), (.percentagePortion, v.percentagePortion),
   (.string, v.string)] ++ more

/-- Where the complete forms of a value lead, and more phrases. -/
def gotos (v : ValueSlot) (more : List (Nonterminal × Nat)) : List (Nonterminal × Nat) :=
  [(.variableExpr, v.variableExpr), (.assetLiteral, v.assetLiteral),
   (.stringLiteral, v.stringLiteral), (.accountLiteral, v.accountLiteral),
   (.numberLiteral, v.numberLiteral), (.percentagePortionLiteral, v.percentagePortionLiteral),
   (.monetaryLiteral, v.monetaryLiteral), (.infixExpr, v.infixExpr),
   (.parenthesizedExpr, v.parenthesizedExpr), (.application, v.application),
   (.functionCall, v.functionCall)] ++ more

end ValueSlot
end Numscript.Automaton
