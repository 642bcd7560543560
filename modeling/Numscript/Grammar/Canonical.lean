import Numscript.Grammar.Derivation

/-!
# Canonical forms

The grammar alone leaves some texts with several derivations. Two conventions choose one of them:
operators group from the left and `/` binds tighter than `+` and `-`, and a destination whose only
clause says what remains is filled in order. A canonical form derives from the grammar and keeps
both conventions everywhere.
-/
namespace Numscript.Grammar

/-- How tightly an operator binds. -/
def tightness : Terminal → Nat
  | .slash => 2
  | _ => 1

/-- The operator of an operation, which is its child in the field `op`. -/
def operator? (operation : Form) : Option Terminal :=
  operation.children.findSome? fun c =>
    match c.field, c.symbol with
    | some .op, .terminal t => some t
    | _, _ => none

/-- The operator of a value that is itself an operation. -/
def valueOperator? (value : Form) : Option Terminal :=
  match value.structural with
  | [inner] => if inner.symbol = .nonterminal .infixExpr then operator? inner else none
  | _ => none

/--
The operands of an operation need no parentheses: the right one binds tighter than the operator,
and the left one at least as tightly.
-/
def groupsLeft (operation : Form) : Bool :=
  match operator? operation with
  | none => true
  | some op =>
    operation.children.all fun c =>
      match c.field, valueOperator? c with
      | some .left, some inner => tightness op ≤ tightness inner
      | some .right, some inner => tightness op < tightness inner
      | _, _ => true

/-- Whether a clause of a destination says what remains. -/
def saysRemaining (clause : Form) : Bool :=
  clause.children.any fun c =>
    c.children.any fun a => a.symbol = .nonterminal .remainingAllotment

/-- The clauses of an allotment are not a single one that says what remains. -/
def sharesOut (allotment : Form) : Bool :=
  match allotment.children.filter fun c => c.symbol = .nonterminal .allotmentClauseDest with
  | [clause] => !saysRemaining clause
  | _ => true

/-- Whether a single form keeps the conventions, whatever stands below it. -/
def keepsConventions (f : Form) : Bool :=
  match f.symbol with
  | .nonterminal .infixExpr => groupsLeft f
  | .nonterminal .destAllotment => sharesOut f
  | _ => true

mutual

/-- Whether a form and all below it keep the conventions. -/
def conventional : Form → Bool
  | .mk s f text children =>
    keepsConventions (.mk s f text children) && conventionalAll children

/-- Whether all forms of a list keep the conventions. -/
def conventionalAll : List Form → Bool
  | [] => true
  | f :: rest => conventional f && conventionalAll rest

end

/-- A form of a program that derives from the grammar and keeps the conventions. -/
structure Canonical (f : Form) : Prop where
  isProgram : f.symbol = .nonterminal .program
  atRoot : f.field = none
  derives : Derives f
  conventional : conventional f = true

end Numscript.Grammar
