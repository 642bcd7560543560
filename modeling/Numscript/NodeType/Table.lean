import Numscript.NodeType.Basic
import Numscript.Text.Block

/-!
# The table of kinds

Every kind of node that can show in a tree, named kinds first, and the table as a file.
-/
namespace Numscript.NodeType

/-- Several phrases. -/
def phrases (l : List Nonterminal) : List Symbol := l.map .nonterminal

/-- Several tokens. -/
def tokens (l : List Terminal) : List Symbol := l.map .terminal

/-- The kinds of node, in order. -/
def all : List NodeType :=
  [.plain .accountLiteral (.oneOrMore (phrases [.accountLiteralPart])),
   .plain .accountLiteralPart (.one [.terminal .accountText, .alias .accountVar]),
   .token .accountText,
   ⟨.alias .accountVar, none⟩,
   .plain .allotment (.one (phrases [.portionedAllotment, .remainingAllotment])),
   .plain .allotmentClauseDest (.oneOrMore (phrases [.allotment, .keptOrDestination])),
   .plain .allotmentClauseSrc (.oneOrMore (phrases [.allotment, .source])),
   .plain .application (.one (phrases [.functionCall])),
   .token .asset,
   .plain .assetLiteral (.one (tokens [.asset])),
   .plain .colorConstraint (.one (phrases [.valueExpr])),
   .plain .destAccount (.one (phrases [.valueExpr])),
   .plain .destAllotment (.oneOrMore (phrases [.allotmentClauseDest])),
   .plain .destInorder (.oneOrMore (phrases [.destinationInOrderClause, .keptOrDestination])),
   .plain .destOneof (.oneOrMore (phrases [.destinationInOrderClause, .keptOrDestination])),
   .plain .destination (.one (phrases [.destAccount, .destAllotment, .destInorder, .destOneof])),
   .plain .destinationInOrderClause (.oneOrMore (phrases [.keptOrDestination, .valueExpr])),
   .token .destinationKept,
   .plain .destinationTo (.one (phrases [.destination])),
   .plain .fnCallStatement (.one (phrases [.functionCall])),
   .fielded .functionCall
     [(.name, .one (tokens [.identifier, .kwOverdraft]))]
      (some (.atMostOne (phrases [.functionCallArgs]))),
   .plain .functionCallArgs (.oneOrMore (phrases [.valueExpr])),
   .token .identifier,
   .fielded .infixExpr
     [(.left, .one (phrases [.valueExpr])), (.op, .one (tokens [.plus, .minus, .slash])), (.right,
      .one (phrases [.valueExpr]))] none,
   .plain .keptOrDestination (.one [.terminal .destinationKept, .nonterminal .destinationTo]),
   .token .lineComment,
   .fielded .monetaryLiteral
     [(.amount, .one (phrases [.valueExpr])), (.asset, .one (phrases [.valueExpr]))] none,
   .token .multilineComment,
   .token .number,
   .plain .numberLiteral (.one (tokens [.number])),
   .plain .parenthesizedExpr (.one (phrases [.valueExpr])),
   .token .percentagePortion,
   .plain .percentagePortionLiteral (.one (tokens [.percentagePortion])),
   .plain .portionedAllotment (.one (phrases [.valueExpr])),
   .plain .program (.anyNumber (phrases [.statement, .varsDeclaration])),
   .fielded .remainingAllotment [] none,
   .plain .saveStatement (.oneOrMore (phrases [.sentValue, .valueExpr])),
   .plain .sendStatement (.oneOrMore (phrases [.destination, .sentValue, .source])),
   .fielded .sentAllLit [(.asset, .one (phrases [.valueExpr]))] none,
   ⟨.alias .sentLiteral, some ⟨[], some (.one (phrases [.accountLiteral, .application,
      .assetLiteral, .infixExpr, .monetaryLiteral, .numberLiteral, .parenthesizedExpr,
      .percentagePortionLiteral, .stringLiteral, .variableExpr]))⟩⟩,
   .plain .sentValue (.one [.nonterminal .sentAllLit, .alias .sentLiteral]),
   .plain .source
     (.one (phrases [.srcAccount, .srcAccountBoundedOverdraft, .srcAccountUnboundedOverdraft,
      .srcAllotment, .srcCapped, .srcInorder, .srcOneof])),
   .plain .srcAccount (.oneOrMore (phrases [.colorConstraint, .valueExpr])),
   .fielded .srcAccountBoundedOverdraft
     [(.address, .one (phrases [.valueExpr])), (.maxOverdraft, .one (phrases [.valueExpr]))]
      (some (.atMostOne (phrases [.colorConstraint]))),
   .fielded .srcAccountUnboundedOverdraft
     [(.address, .one (phrases [.valueExpr]))] (some (.atMostOne (phrases [.colorConstraint]))),
   .plain .srcAllotment (.oneOrMore (phrases [.allotmentClauseSrc])),
   .fielded .srcCapped [(.cap, .one (phrases [.valueExpr]))] (some (.one (phrases [.source]))),
   .plain .srcInorder (.anyNumber (phrases [.source])),
   .plain .srcOneof (.oneOrMore (phrases [.source])),
   .plain .statement (.one (phrases [.fnCallStatement, .saveStatement, .sendStatement])),
   .token .string,
   .plain .stringLiteral (.one (tokens [.string])),
   .plain .valueExpr
     (.one (phrases [.accountLiteral, .application, .assetLiteral, .infixExpr, .monetaryLiteral,
      .numberLiteral, .parenthesizedExpr, .percentagePortionLiteral, .stringLiteral,
      .variableExpr])),
   .fielded .varDeclaration
     [(.name, .one (tokens [.variableName])), (.type, .one (tokens [.identifier]))]
      (some (.atMostOne (phrases [.varOrigin]))),
   .plain .varOrigin (.one (phrases [.valueExpr])),
   .plain .variableExpr (.one (tokens [.variableName])),
   .token .variableName,
   .plain .varsDeclaration (.anyNumber (phrases [.varDeclaration])),
   .token .lparen,
   .token .rparen,
   .token .star,
   .token .plus,
   .token .comma,
   .token .minus,
   .token .slash,
   .token .colon,
   .token .equals,
   .token .atSign,
   .token .lbracket,
   .token .backslash,
   .token .rbracket,
   .token .kwAllowing,
   .token .kwDestination,
   .token .kwFrom,
   .token .kwMax,
   .token .kwOneof,
   .token .kwOverdraft,
   .token .kwRemaining,
   .token .kwSave,
   .token .kwSend,
   .token .kwSource,
   .token .kwTo,
   .token .kwUnbounded,
   .token .kwUp,
   .token .kwVars,
   .token .lbrace,
   .token .rbrace]

/-- The first kind with a name and a namedness, and its place in the table. -/
def find? (name : String) (named : Bool) : Option (NodeType × Nat) :=
  all.zipIdx.find? fun k => k.1.symbol.name = name && k.1.symbol.isNamed = named

/-- The name of a symbol and its namedness, as entries of a record. -/
def symbolEntries (s : Symbol) : List (String × Block) :=
  [("type", .line (Quoted.encode s.name)), ("named", .line (toString s.isNamed))]

/-- A slot as it stands in the file. -/
def slotBlock (s : Slot) : Block :=
  .record [("multiple", .line (toString s.multiple)), ("required", .line (toString s.required)),
    ("types", .list (s.kinds.map fun k => .record (symbolEntries k)))]

/-- What stands below a kind, as entries of a record. -/
def shapeEntries (s : Shape) : List (String × Block) :=
  ("fields", .record (s.fields.map fun f => (f.1.label, slotBlock f.2))) ::
    match s.children with
    | some c => [("children", slotBlock c)]
    | none => []

/-- A kind as it stands in the file. -/
def block (k : NodeType) : Block :=
  .record (symbolEntries k.symbol ++
    match k.shape with
    | some s => shapeEntries s
    | none => [])

/-- The table as a file. -/
def text : String := (Block.list (all.map block)).text

end Numscript.NodeType
