/-!
# Nonterminals

The phrases of the language, in the order of their symbol numbers, which follow those of the
terminals. The last eight are repetitions: they gather the items of a list from the left and never
show in a tree, their items stand in their place.
-/
namespace Numscript

/-- The kinds of phrase, in the order of their numbers. -/
inductive Nonterminal where
  | program | varsDeclaration | varDeclaration | varOrigin | statement | sendStatement
  | saveStatement | fnCallStatement | sentValue | sentAllLit | valueExpr | variableExpr
  | assetLiteral | stringLiteral | accountLiteral | accountLiteralPart | numberLiteral
  | percentagePortionLiteral | monetaryLiteral | infixExpr | parenthesizedExpr | application
  | functionCall | functionCallArgs | source | srcAccountUnboundedOverdraft
  | srcAccountBoundedOverdraft | srcAccount | srcAllotment | srcInorder | srcOneof | srcCapped
  | allotmentClauseSrc | destination | destAccount | destAllotment | destInorder | destOneof
  | allotmentClauseDest | destinationInOrderClause | keptOrDestination | destinationTo | allotment
  | portionedAllotment | remainingAllotment | colorConstraint | statements | varDeclarations
  | accountParts | moreArgs | srcClauses | sources | destClauses | inOrderClauses
  deriving DecidableEq, Repr

namespace Nonterminal

/-- The number of a nonterminal: there are forty terminals before the first one. -/
def index (n : Nonterminal) : Nat := 40 + n.ctorIdx

/-- All nonterminals by number, from forty on. -/
def all : List Nonterminal :=
  [.program, .varsDeclaration, .varDeclaration, .varOrigin, .statement, .sendStatement,
   .saveStatement, .fnCallStatement, .sentValue, .sentAllLit, .valueExpr, .variableExpr,
   .assetLiteral, .stringLiteral, .accountLiteral, .accountLiteralPart, .numberLiteral,
   .percentagePortionLiteral, .monetaryLiteral, .infixExpr, .parenthesizedExpr, .application,
   .functionCall, .functionCallArgs, .source, .srcAccountUnboundedOverdraft,
   .srcAccountBoundedOverdraft, .srcAccount, .srcAllotment, .srcInorder, .srcOneof, .srcCapped,
   .allotmentClauseSrc, .destination, .destAccount, .destAllotment, .destInorder, .destOneof,
   .allotmentClauseDest, .destinationInOrderClause, .keptOrDestination, .destinationTo, .allotment,
   .portionedAllotment, .remainingAllotment, .colorConstraint, .statements, .varDeclarations,
   .accountParts, .moreArgs, .srcClauses, .sources, .destClauses, .inOrderClauses]

/-- The name a phrase is shown under. -/
def name : Nonterminal → String
  | .program => "program"
  | .varsDeclaration => "vars_declaration"
  | .varDeclaration => "var_declaration"
  | .varOrigin => "var_origin"
  | .statement => "statement"
  | .sendStatement => "send_statement"
  | .saveStatement => "save_statement"
  | .fnCallStatement => "fn_call_statement"
  | .sentValue => "sent_value"
  | .sentAllLit => "sent_all_lit"
  | .valueExpr => "value_expr"
  | .variableExpr => "variable_expr"
  | .assetLiteral => "asset_literal"
  | .stringLiteral => "string_literal"
  | .accountLiteral => "account_literal"
  | .accountLiteralPart => "account_literal_part"
  | .numberLiteral => "number_literal"
  | .percentagePortionLiteral => "percentage_portion_literal"
  | .monetaryLiteral => "monetary_literal"
  | .infixExpr => "infix_expr"
  | .parenthesizedExpr => "parenthesized_expr"
  | .application => "application"
  | .functionCall => "function_call"
  | .functionCallArgs => "function_call_args"
  | .source => "source"
  | .srcAccountUnboundedOverdraft => "src_account_unbounded_overdraft"
  | .srcAccountBoundedOverdraft => "src_account_bounded_overdraft"
  | .srcAccount => "src_account"
  | .srcAllotment => "src_allotment"
  | .srcInorder => "src_inorder"
  | .srcOneof => "src_oneof"
  | .srcCapped => "src_capped"
  | .allotmentClauseSrc => "allotment_clause_src"
  | .destination => "destination"
  | .destAccount => "dest_account"
  | .destAllotment => "dest_allotment"
  | .destInorder => "dest_inorder"
  | .destOneof => "dest_oneof"
  | .allotmentClauseDest => "allotment_clause_dest"
  | .destinationInOrderClause => "destination_in_order_clause"
  | .keptOrDestination => "kept_or_destination"
  | .destinationTo => "destination_to"
  | .allotment => "allotment"
  | .portionedAllotment => "portioned_allotment"
  | .remainingAllotment => "remaining_allotment"
  | .colorConstraint => "color_constraint"
  | .statements => "program_repeat1"
  | .varDeclarations => "vars_declaration_repeat1"
  | .accountParts => "account_literal_repeat1"
  | .moreArgs => "function_call_args_repeat1"
  | .srcClauses => "src_allotment_repeat1"
  | .sources => "src_inorder_repeat1"
  | .destClauses => "dest_allotment_repeat1"
  | .inOrderClauses => "dest_inorder_repeat1"

/-- Repetitions gather the items of a list and do not show in a tree. -/
def isRepetition : Nonterminal → Bool
  | .statements | .varDeclarations | .accountParts | .moreArgs | .srcClauses | .sources
  | .destClauses | .inOrderClauses => true
  | _ => false

theorem all_index (n : Nonterminal) : all[n.index - 40]? = some n := by cases n <;> rfl

theorem mem_all (n : Nonterminal) : n ∈ all := List.mem_of_getElem? (all_index n)

end Nonterminal
end Numscript
