/-!
# Terminals

The tokens of the language: keywords, punctuation, and the tokens with a text of their own. They
are declared in the order of their symbol numbers, so a terminal's number is its place in the
declaration.
-/
namespace Numscript

/-- The kinds of token, in the order of their numbers. `endOfText` stands behind the last one. -/
inductive Terminal where
  | endOfText | lineComment | multilineComment | kwVars | lbrace | rbrace | equals | kwSend
  | lparen | kwSource | kwDestination | rparen | kwSave | kwFrom | lbracket | star | rbracket
  | atSign | colon | plus | minus | slash | kwOverdraft | comma | kwAllowing | kwUnbounded | kwUp
  | kwTo | kwOneof | kwMax | kwRemaining | destinationKept | backslash | variableName | identifier
  | number | asset | percentagePortion | string | accountText
  deriving DecidableEq, Repr

namespace Terminal

/-- The number of a terminal. -/
def index (t : Terminal) : Nat := t.ctorIdx

/-- All terminals by number. -/
def all : List Terminal :=
  [.endOfText, .lineComment, .multilineComment, .kwVars, .lbrace, .rbrace, .equals, .kwSend,
   .lparen, .kwSource, .kwDestination, .rparen, .kwSave, .kwFrom, .lbracket, .star, .rbracket,
   .atSign, .colon, .plus, .minus, .slash, .kwOverdraft, .comma, .kwAllowing, .kwUnbounded, .kwUp,
   .kwTo, .kwOneof, .kwMax, .kwRemaining, .destinationKept, .backslash, .variableName, .identifier,
   .number, .asset, .percentagePortion, .string, .accountText]

/-- The name a token is shown under; keywords and punctuation are named by their text. -/
def name : Terminal → String
  | .endOfText => "end"
  | .lineComment => "line_comment"
  | .multilineComment => "multiline_comment"
  | .kwVars => "vars"
  | .lbrace => "\x7b"
  | .rbrace => "\x7d"
  | .equals => "="
  | .kwSend => "send"
  | .lparen => "("
  | .kwSource => "source"
  | .kwDestination => "destination"
  | .rparen => ")"
  | .kwSave => "save"
  | .kwFrom => "from"
  | .lbracket => "["
  | .star => "*"
  | .rbracket => "]"
  | .atSign => "@"
  | .colon => ":"
  | .plus => "+"
  | .minus => "-"
  | .slash => "/"
  | .kwOverdraft => "overdraft"
  | .comma => ","
  | .kwAllowing => "allowing"
  | .kwUnbounded => "unbounded"
  | .kwUp => "up"
  | .kwTo => "to"
  | .kwOneof => "oneof"
  | .kwMax => "max"
  | .kwRemaining => "remaining"
  | .destinationKept => "destination_kept"
  | .backslash => "\\"
  | .variableName => "variable_name"
  | .identifier => "identifier"
  | .number => "number"
  | .asset => "asset"
  | .percentagePortion => "percentage_portion"
  | .string => "string"
  | .accountText => "account_text"

/-- Named tokens have a rule name; the others are named by their own text. -/
def isNamed : Terminal → Bool
  | .lineComment | .multilineComment | .destinationKept | .variableName | .identifier | .number
  | .asset | .percentagePortion | .string | .accountText => true
  | _ => false

/-- Every terminal but the end of the text shows in a tree. -/
def isVisible (t : Terminal) : Bool := t ≠ .endOfText

/-- Comments may stand between any two tokens. -/
def isComment : Terminal → Bool
  | .lineComment | .multilineComment => true
  | _ => false

theorem all_index (t : Terminal) : all[t.index]? = some t := by cases t <;> rfl

theorem mem_all (t : Terminal) : t ∈ all := List.mem_of_getElem? (all_index t)

end Terminal
end Numscript
