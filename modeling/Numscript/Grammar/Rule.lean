import Numscript.Regular.Basic
import Numscript.Symbol.Symbol

/-!
# Grammar rules

The rule of each phrase: a regular expression over its children, each with the name it shows and
the field it has. Repetitions are written with `many`, so the rules describe children as they show
in a tree, where the items of a list stand side by side.
-/
namespace Numscript.Grammar

/-- A child of a phrase: what it shows as, and its field. -/
structure Item where
  symbol : Symbol
  field : Option Field
  deriving DecidableEq, Repr

/-- A rule over the children of a phrase. -/
abbrev Rule := Regular Item

/-- A child that is a token. -/
def token (t : Terminal) : Rule := .one ⟨.terminal t, none⟩

/-- A child that is a phrase. -/
def phrase (n : Nonterminal) : Rule := .one ⟨.nonterminal n, none⟩

/-- A child that shows under an alias. -/
def shown (a : Alias) : Rule := .one ⟨.alias a, none⟩

/-- Children in a field. -/
def inField (f : Field) (r : Rule) : Rule := r.map fun i => { i with field := some f }

/-- The clauses of a destination that is filled in order, and what remains. -/
def inOrder (opening : List Rule) : Rule :=
  .sequence (opening ++ [token .lbrace, .many (phrase .destinationInOrderClause),
    token .kwRemaining, phrase .keptOrDestination, token .rbrace])

/-- Operands around an operator. -/
def operation (operators : List Terminal) : Rule :=
  .sequence [inField .left (phrase .valueExpr), inField .op (.choice (operators.map token)),
    inField .right (phrase .valueExpr)]

/--
The children of a phrase. Repetitions, which do not show, hold the items that they repeat.
-/
def rule : Nonterminal → Rule
  | .program => .seq (.optional (phrase .varsDeclaration)) (.many (phrase .statement))
  | .varsDeclaration =>
    .sequence [token .kwVars, token .lbrace, .many (phrase .varDeclaration), token .rbrace]
  | .varDeclaration =>
    .sequence [inField .type (token .identifier), inField .name (token .variableName),
      .optional (phrase .varOrigin)]
  | .varOrigin => .sequence [token .equals, phrase .valueExpr]
  | .statement =>
    .choice [phrase .sendStatement, phrase .saveStatement, phrase .fnCallStatement]
  | .sendStatement =>
    .sequence [token .kwSend, phrase .sentValue, token .lparen, token .kwSource, token .equals,
      phrase .source, token .kwDestination, token .equals, phrase .destination, token .rparen]
  | .saveStatement =>
    .sequence [token .kwSave, phrase .sentValue, token .kwFrom, phrase .valueExpr]
  | .fnCallStatement => phrase .functionCall
  | .sentValue => .choice [shown .sentLiteral, phrase .sentAllLit]
  | .sentAllLit =>
    .sequence [token .lbracket, inField .asset (phrase .valueExpr), token .star, token .rbracket]
  | .valueExpr =>
    .choice [phrase .variableExpr, phrase .assetLiteral, phrase .stringLiteral,
      phrase .accountLiteral, phrase .numberLiteral, phrase .percentagePortionLiteral,
      phrase .monetaryLiteral, phrase .infixExpr, phrase .parenthesizedExpr, phrase .application]
  | .variableExpr => token .variableName
  | .assetLiteral => token .asset
  | .stringLiteral => token .string
  | .accountLiteral =>
    .sequence [token .atSign, phrase .accountLiteralPart,
      .many (.seq (token .colon) (phrase .accountLiteralPart))]
  | .accountLiteralPart => .choice [token .accountText, shown .accountVar]
  | .numberLiteral => token .number
  | .percentagePortionLiteral => token .percentagePortion
  | .monetaryLiteral =>
    .sequence [token .lbracket, inField .asset (phrase .valueExpr),
      inField .amount (phrase .valueExpr), token .rbracket]
  | .infixExpr => .alt (operation [.plus, .minus]) (operation [.slash])
  | .parenthesizedExpr => .sequence [token .lparen, phrase .valueExpr, token .rparen]
  | .application => phrase .functionCall
  | .functionCall =>
    .sequence [inField .name (.choice [token .identifier, token .kwOverdraft]), token .lparen,
      .optional (phrase .functionCallArgs), token .rparen]
  | .functionCallArgs =>
    .seq (phrase .valueExpr) (.many (.seq (token .comma) (phrase .valueExpr)))
  | .source =>
    .choice [phrase .srcAccountUnboundedOverdraft, phrase .srcAccountBoundedOverdraft,
      phrase .srcAccount, phrase .srcAllotment, phrase .srcInorder, phrase .srcOneof,
      phrase .srcCapped]
  | .srcAccountUnboundedOverdraft =>
    .sequence [inField .address (phrase .valueExpr), .optional (phrase .colorConstraint),
      token .kwAllowing, token .kwUnbounded, token .kwOverdraft]
  | .srcAccountBoundedOverdraft =>
    .sequence [inField .address (phrase .valueExpr), .optional (phrase .colorConstraint),
      token .kwAllowing, token .kwOverdraft, token .kwUp, token .kwTo,
      inField .maxOverdraft (phrase .valueExpr)]
  | .srcAccount => .seq (phrase .valueExpr) (.optional (phrase .colorConstraint))
  | .srcAllotment =>
    .sequence [token .lbrace, .oneOrMore (phrase .allotmentClauseSrc), token .rbrace]
  | .srcInorder => .sequence [token .lbrace, .many (phrase .source), token .rbrace]
  | .srcOneof =>
    .sequence [token .kwOneof, token .lbrace, .oneOrMore (phrase .source), token .rbrace]
  | .srcCapped =>
    .sequence [token .kwMax, inField .cap (phrase .valueExpr), token .kwFrom, phrase .source]
  | .allotmentClauseSrc => .sequence [phrase .allotment, token .kwFrom, phrase .source]
  | .destination =>
    .choice [phrase .destAccount, phrase .destAllotment, phrase .destInorder, phrase .destOneof]
  | .destAccount => phrase .valueExpr
  | .destAllotment =>
    .sequence [token .lbrace, .oneOrMore (phrase .allotmentClauseDest), token .rbrace]
  | .destInorder => inOrder []
  | .destOneof => inOrder [token .kwOneof]
  | .allotmentClauseDest => .seq (phrase .allotment) (phrase .keptOrDestination)
  | .destinationInOrderClause =>
    .sequence [token .kwMax, phrase .valueExpr, phrase .keptOrDestination]
  | .keptOrDestination => .choice [phrase .destinationTo, token .destinationKept]
  | .destinationTo => .seq (token .kwTo) (phrase .destination)
  | .allotment => .choice [phrase .portionedAllotment, phrase .remainingAllotment]
  | .portionedAllotment => phrase .valueExpr
  | .remainingAllotment => token .kwRemaining
  | .colorConstraint => .seq (token .backslash) (phrase .valueExpr)
  | .statements => .oneOrMore (phrase .statement)
  | .varDeclarations => .oneOrMore (phrase .varDeclaration)
  | .accountParts => .oneOrMore (.seq (token .colon) (phrase .accountLiteralPart))
  | .moreArgs => .oneOrMore (.seq (token .comma) (phrase .valueExpr))
  | .srcClauses => .oneOrMore (phrase .allotmentClauseSrc)
  | .sources => .oneOrMore (phrase .source)
  | .destClauses => .oneOrMore (phrase .allotmentClauseDest)
  | .inOrderClauses => .oneOrMore (phrase .destinationInOrderClause)

end Numscript.Grammar
