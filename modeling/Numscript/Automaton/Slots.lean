import Numscript.Automaton.State

/-!
# Slots and lookaheads

The kinds of slot that a value can fill, and the sets of tokens before which phrases are complete.
-/
namespace Numscript.Automaton

/-- What a value starts with. -/
def valueStart : List Terminal :=
  [.lparen, .lbracket, .atSign, .kwOverdraft, .variableName, .identifier, .number, .asset,
   .percentagePortion, .string]

/-- The operators between values. -/
def operators : List Terminal := [.plus, .minus, .slash]

/-- The operators that bind less. -/
def additive : List Terminal := [.plus, .minus]

/-- What a statement starts with. -/
def statementStart : List Terminal := [.kwSend, .kwSave, .kwOverdraft, .identifier]

/-- What may follow a value of most slots. -/
def afterEnclosed : List Terminal :=
  [.rbrace, .lparen, .kwDestination, .rparen, .kwFrom, .rbracket, .comma, .kwAllowing, .kwTo,
   .kwMax, .kwRemaining, .destinationKept, .backslash]

/-- What may follow an account of a source that is tried in order. -/
def afterInOrderSource : List Terminal :=
  valueStart ++ [.lbrace, .rbrace, .kwAllowing, .kwOneof, .kwMax, .backslash]

/-- What may follow the asset at the start of a bracket. -/
def afterBracketedAsset : List Terminal := valueStart ++ [.star]

/-- What may follow the first value in the braces of a source. -/
def afterFirstSource : List Terminal :=
  valueStart ++ [.lbrace, .rbrace, .kwFrom, .kwAllowing, .kwOneof, .kwMax, .backslash]

/-- What may follow the account at the end of a clause of a source. -/
def afterClauseSource : List Terminal :=
  valueStart ++ [.rbrace, .kwAllowing, .kwRemaining, .backslash]

/-- What may follow a clause. -/
def afterClauseValue : List Terminal := valueStart ++ [.rbrace, .kwRemaining]

/-- What may follow a source that is tried in order. -/
def afterSourceLimit : List Terminal := valueStart ++ [.lbrace, .rbrace, .kwOneof, .kwMax]

/-- What may follow a statement. -/
def afterStatement : List Terminal := statementStart ++ [.endOfText]

/-- What may follow the declaration of a variable. -/
def afterVarOrigin : List Terminal := [.rbrace, .identifier]

/-- What may follow a value that stands before a keyword. -/
def afterAddress : List Terminal :=
  [.kwDestination, .kwFrom, .kwAllowing, .kwTo, .kwMax, .kwRemaining, .destinationKept, .backslash]

/-- Values in brackets, in parentheses, in calls, and in most other slots. -/
def enclosed : ValueSlot where
  lparen := 61
  lbracket := 101
  atSign := 529
  kwOverdraft := 602
  variableName := 273
  identifier := 593
  number := 276
  asset := 274
  percentagePortion := 277
  string := 275
  variableExpr := 263
  assetLiteral := 264
  stringLiteral := 265
  accountLiteral := 266
  numberLiteral := 267
  percentagePortionLiteral := 268
  monetaryLiteral := 269
  infixExpr := 270
  parenthesizedExpr := 271
  application := 272
  functionCall := 278

/-- Values that stand first in a brace or behind a keyword of a clause. -/
def braced : ValueSlot where
  lparen := 61
  lbracket := 101
  atSign := 529
  kwOverdraft := 603
  variableName := 273
  identifier := 594
  number := 276
  asset := 274
  percentagePortion := 277
  string := 275
  variableExpr := 263
  assetLiteral := 264
  stringLiteral := 265
  accountLiteral := 266
  numberLiteral := 267
  percentagePortionLiteral := 268
  monetaryLiteral := 269
  infixExpr := 270
  parenthesizedExpr := 271
  application := 272
  functionCall := 278

/-- Accounts of a source that is tried in order. -/
def inOrderSource : ValueSlot where
  lparen := 66
  lbracket := 105
  atSign := 534
  kwOverdraft := 607
  variableName := 175
  identifier := 598
  number := 178
  asset := 176
  percentagePortion := 179
  string := 177
  variableExpr := 165
  assetLiteral := 166
  stringLiteral := 167
  accountLiteral := 168
  numberLiteral := 169
  percentagePortionLiteral := 170
  monetaryLiteral := 171
  infixExpr := 172
  parenthesizedExpr := 173
  application := 174
  functionCall := 180

/-- The asset at the start of a bracket. -/
def bracketedAsset : ValueSlot where
  lparen := 62
  lbracket := 100
  atSign := 530
  kwOverdraft := 604
  variableName := 332
  identifier := 595
  number := 335
  asset := 333
  percentagePortion := 336
  string := 334
  variableExpr := 322
  assetLiteral := 323
  stringLiteral := 324
  accountLiteral := 325
  numberLiteral := 326
  percentagePortionLiteral := 327
  monetaryLiteral := 328
  infixExpr := 329
  parenthesizedExpr := 330
  application := 331
  functionCall := 337

/-- The first value in the braces of a source: an account or a portion. -/
def firstSource : ValueSlot where
  lparen := 65
  lbracket := 104
  atSign := 533
  kwOverdraft := 606
  variableName := 144
  identifier := 597
  number := 147
  asset := 145
  percentagePortion := 148
  string := 146
  variableExpr := 134
  assetLiteral := 135
  stringLiteral := 136
  accountLiteral := 137
  numberLiteral := 138
  percentagePortionLiteral := 139
  monetaryLiteral := 140
  infixExpr := 141
  parenthesizedExpr := 142
  application := 143
  functionCall := 149

/-- The account at the end of a clause of a source. -/
def clauseSource : ValueSlot where
  lparen := 67
  lbracket := 106
  atSign := 535
  kwOverdraft := 608
  variableName := 225
  identifier := 599
  number := 231
  asset := 227
  percentagePortion := 233
  string := 229
  variableExpr := 205
  assetLiteral := 207
  stringLiteral := 209
  accountLiteral := 211
  numberLiteral := 213
  percentagePortionLiteral := 215
  monetaryLiteral := 217
  infixExpr := 219
  parenthesizedExpr := 221
  application := 223
  functionCall := 235

/-- The value that ends a clause: the limit of an overdraft or a destination. -/
def clauseValue : ValueSlot where
  lparen := 68
  lbracket := 107
  atSign := 536
  kwOverdraft := 609
  variableName := 298
  identifier := 600
  number := 301
  asset := 299
  percentagePortion := 302
  string := 300
  variableExpr := 288
  assetLiteral := 289
  stringLiteral := 290
  accountLiteral := 291
  numberLiteral := 292
  percentagePortionLiteral := 293
  monetaryLiteral := 294
  infixExpr := 295
  parenthesizedExpr := 296
  application := 297
  functionCall := 303

/-- The limit of an overdraft in a source that is tried in order. -/
def sourceLimit : ValueSlot where
  lparen := 69
  lbracket := 108
  atSign := 537
  kwOverdraft := 610
  variableName := 226
  identifier := 601
  number := 232
  asset := 228
  percentagePortion := 234
  string := 230
  variableExpr := 206
  assetLiteral := 208
  stringLiteral := 210
  accountLiteral := 212
  numberLiteral := 214
  percentagePortionLiteral := 216
  monetaryLiteral := 218
  infixExpr := 220
  parenthesizedExpr := 222
  application := 224
  functionCall := 236

/-- What a save statement keeps money from. -/
def saveTarget : ValueSlot where
  lparen := 63
  lbracket := 102
  atSign := 531
  kwOverdraft := 602
  variableName := 426
  identifier := 593
  number := 429
  asset := 427
  percentagePortion := 430
  string := 428
  variableExpr := 416
  assetLiteral := 417
  stringLiteral := 418
  accountLiteral := 419
  numberLiteral := 420
  percentagePortionLiteral := 421
  monetaryLiteral := 422
  infixExpr := 423
  parenthesizedExpr := 424
  application := 425
  functionCall := 431

/-- The origin of a declared variable. -/
def varOrigin : ValueSlot where
  lparen := 64
  lbracket := 103
  atSign := 532
  kwOverdraft := 605
  variableName := 467
  identifier := 596
  number := 470
  asset := 468
  percentagePortion := 471
  string := 469
  variableExpr := 457
  assetLiteral := 458
  stringLiteral := 459
  accountLiteral := 460
  numberLiteral := 461
  percentagePortionLiteral := 462
  monetaryLiteral := 463
  infixExpr := 464
  parenthesizedExpr := 465
  application := 466
  functionCall := 472

end Numscript.Automaton
