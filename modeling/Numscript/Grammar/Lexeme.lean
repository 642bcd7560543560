import Numscript.Regular.Basic
import Numscript.Lexer.State

/-!
# Lexemes

What each token looks like, as a regular expression over classes of code points. The lexer's
automaton recognises these tokens; here they are said one by one, without any automaton.
-/
namespace Numscript.Grammar

open Lexer (CharClass)

namespace Lexeme

/-- A given text. -/
def literal (text : String) : Regular CharClass :=
  .sequence (text.toList.map fun c => .one (.only c))

/-- Digits, at least one. -/
def digits : Regular CharClass := .oneOrMore (.one .digit)

/-- All code points but a star. -/
def notStar : CharClass := [(1, 0x29), (0x2B, 0x10FFFF)]

/-- All code points but a star and a slash. -/
def notStarSlash : CharClass := [(1, 0x29), (0x2B, 0x2E), (0x30, 0x10FFFF)]

/-- What a string holds unescaped: no quote and no end of a line. -/
def unquoted : CharClass := [(1, 9), (11, 12), (14, 0x21), (0x23, 0x10FFFF)]

/-- Stars, at least one. -/
def stars : Regular CharClass := .oneOrMore (.one (.only '*'))

end Lexeme

/-- The text of a token that has only one: a keyword or a punctuation mark. -/
def spelling? : Terminal → Option String
  | .endOfText => none
  | .destinationKept => some "kept"
  | t => if t.isNamed then none else some t.name

/-- The tokens that are spelled like identifiers. -/
def keywords : List Terminal :=
  [.kwVars, .kwSend, .kwSource, .kwDestination, .kwSave, .kwFrom, .kwOverdraft, .kwAllowing,
   .kwUnbounded, .kwUp, .kwTo, .kwOneof, .kwMax, .kwRemaining, .destinationKept]

/-- Whether a text is spelled like a keyword. -/
def spellsKeyword (text : List Glyph) : Bool :=
  keywords.any fun t =>
    match spelling? t with
    | some word => text = word.toList.map fun c => .char c.toNat
    | none => false

open Lexeme in
/-- The texts of a token. The end of the text has none. -/
def lexeme : Terminal → Regular CharClass
  | .endOfText => .never
  | .lineComment => .sequence [literal "//", .many (.one .inLine)]
  | .multilineComment =>
    .sequence [literal "/*", .many (.one notStar), stars,
      .many (.sequence [.one notStarSlash, .many (.one notStar), stars]), literal "/"]
  | .variableName =>
    .sequence [literal "$", .oneOrMore (.one .wordChar), .many (.one .variableChar)]
  | .identifier => .seq (.oneOrMore (.one .small)) (.many (.one .wordChar))
  | .number =>
    .sequence [.optional (literal "-"), digits, .many (.seq (literal "_") digits)]
  | .asset =>
    .sequence [.one .capital, .many (.one .assetChar), .optional (.seq (literal "/") digits)]
  | .percentagePortion =>
    .sequence [digits, .optional (.seq (literal ".") digits), literal "%"]
  | .string =>
    .sequence [literal "\"", .many (.alt (.one unquoted) (literal "\\\"")), literal "\""]
  | .accountText => .oneOrMore (.one .accountChar)
  | t => literal ((spelling? t).getD t.name)

/-- Whether a glyph lies in a class. A stray byte lies in none. -/
def satisfies (cls : CharClass) : Glyph → Bool
  | .char code => cls.covers code
  | .stray => false

/-- Whether a text is a lexeme of a token. -/
def IsLexeme (t : Terminal) (text : List Glyph) : Prop := (lexeme t).Fits satisfies text

end Numscript.Grammar
