import Numscript.Lexer.Token
import Numscript.Symbol.Symbol

/-!
# Events

What the log of a parse reports, and the text of each report. Every event belongs to one of three
channels that can be listened to one by one.
-/
namespace Numscript.Trace

/-- The channels of the log. -/
inductive Channel where
  /-- One report on the whole text. -/
  | summary
  /-- What the parser does. -/
  | parser
  /-- What the lexer reads. -/
  | lexer
  deriving DecidableEq, Repr

/-- The letter that marks the reports of a channel. -/
def Channel.tag : Channel → String
  | .summary => "D"
  | .parser => "P"
  | .lexer => "L"

/-- One report. -/
inductive Event where
  | newParse
  /-- A token is about to be read in a state at a point. -/
  | process (state : Nat) (p : Point)
  /-- The lexer starts in a state at a point. -/
  | lexing (mode : Nat) (p : Point)
  /-- The lexer passes over a glyph before a token. -/
  | skip (g : Glyph)
  /-- The lexer reads a glyph of a token. -/
  | consume (g : Glyph)
  /-- No token starts here; text is passed over until one does. -/
  | skipUnrecognized
  /-- A token was read, or none at all; the size counts the white space before it. -/
  | lookahead (kind : Option Terminal) (size : Nat)
  | reduce (phrase : Nonterminal) (arity : Nat)
  | shift (state : Nat)
  /-- A comment was pushed. -/
  | shiftExtra
  /-- The token cannot follow. -/
  | detectError
  | accept
  | done
  /-- The whole text was parsed. -/
  | parsed (bytes : Nat) (hasError : Bool)
  deriving DecidableEq, Repr

/-- A glyph in a report: in quotes where it can be printed, else its code, -1 for a stray byte. -/
def glyphText : Glyph → String
  | .char code => if 32 ≤ code ∧ code ≤ 126 then s!"'{Char.ofNat code}'" else toString code
  | .stray => "-1"

/-- The name of a token in a report. A backslash is written twice. -/
def tokenText : Option Terminal → String
  | some t => String.ofList (t.name.toList.flatMap fun c => if c = Char.ofNat 0x5C then [c, c] else [c])
  | none => Symbol.error.name

namespace Event

/-- The channel an event is reported on. -/
def channel : Event → Channel
  | .parsed .. => .summary
  | .skip _ | .consume _ => .lexer
  | _ => .parser

/-- What is reported of an event. -/
def text : Event → String
  | .newParse => "new_parse"
  | .process state p =>
    s!"process version:0, version_count:1, state:{state}, row:{p.row}, col:{p.column}"
  | .lexing mode p => s!"lex_internal state:{mode}, row:{p.row}, column:{p.column}"
  | .skip g => s!"skip character:{glyphText g}"
  | .consume g => s!"consume character:{glyphText g}"
  | .skipUnrecognized => "skip_unrecognized_character"
  | .lookahead kind size => s!"lexed_lookahead sym:{tokenText kind}, size:{size}"
  | .reduce phrase arity => s!"reduce sym:{phrase.name}, child_count:{arity}"
  | .shift state => s!"shift state:{state}"
  | .shiftExtra => "shift_extra"
  | .detectError => "detect_error"
  | .accept => "accept"
  | .done => "done"
  | .parsed bytes hasError => s!"parsed numscript source bytes={bytes} has_error={hasError}"

/-- An event as a line of the log. -/
def line (e : Event) : String := e.channel.tag ++ " " ++ e.text

end Event
end Numscript.Trace
