import Numscript.Trace.Event

/-!
# Reading a log

The lines of a log are read back to its events. A line begins with words that no other line begins with, and its
values follow one another between fixed words. A reader takes a value off the front of a line. Rows and columns are
read as a place of the text that the log is about.
-/
namespace Numscript.Trace

/-- Takes a value off the front of a line, if there is one. -/
abbrev Reader := StateT (List Char) Option

namespace Reader

/-- Takes a word. -/
def word (w : String) : Reader Unit := fun s => (w.toList.isPrefixOf? s).map fun rest => ((), rest)

/-- Takes the word of one of some choices. -/
def oneOf {α : Type} (word : α → String) (choices : List α) : Reader α := fun s =>
  choices.findSome? fun a => ((word a).toList.isPrefixOf? s).map fun rest => (a, rest)

/-- Takes all digits. -/
def number : Reader Nat := fun s =>
  match s.takeWhile Char.isDigit with
  | [] => none
  | digits => some (Nat.ofDigitChars 10 digits 0, s.dropWhile Char.isDigit)

/-- Takes any letter. -/
def letter : Reader Char
  | [] => none
  | c :: rest => some (c, rest)

/-- Takes a glyph: in quotes, as a stray byte, or as a code. -/
def glyph : Reader Glyph :=
  (do word "'"; let c ← letter; word "'"; pure (.char c.toNat)) <|>
    (do word "-1"; pure .stray) <|> (do let code ← number; pure (.char code))

/-- The place of a text with a row and a column. -/
def place (text : List Glyph) (row column : Nat) : Reader Point := fun s =>
  (find? row column .origin text).map fun p => (p, s)
where
  /-- Searches from a point on. -/
  find? (row column : Nat) (p : Point) : List Glyph → Option Point
    | [] => if p.row = row ∧ p.column = column then some p else none
    | g :: rest =>
      if p.row = row ∧ p.column = column then some p else find? row column (p.after g) rest

/-- Takes the row and the column of a place of the text, with the word between them. -/
def point (text : List Glyph) (between : String) : Reader Point := do
  word ", row:"
  let row ← number
  word between
  let column ← number
  place text row column

end Reader

namespace Event

open Reader

/-- How the reports begin, and how the rest of each is read. -/
def heads (text : List Glyph) : List (String × Reader Event) :=
  [("new_parse", pure .newParse),
   ("process version:0, version_count:1, state:", do
      let state ← number; let p ← point text ", col:"; pure (.process state p)),
   ("lex_internal state:", do
      let mode ← number; let p ← point text ", column:"; pure (.lexing mode p)),
   ("skip character:", do let g ← glyph; pure (.skip g)),
   ("consume character:", do let g ← glyph; pure (.consume g)),
   ("skip_unrecognized_character", pure .skipUnrecognized),
   ("lexed_lookahead sym:", do
      let kind ← oneOf (tokenText · ++ ", size:") (none :: Terminal.all.map some)
      let size ← number; pure (.lookahead kind size)),
   ("reduce sym:", do
      let phrase ← oneOf (·.name ++ ", child_count:") Nonterminal.all
      let arity ← number; pure (.reduce phrase arity)),
   ("shift state:", do let state ← number; pure (.shift state)),
   ("shift_extra", pure .shiftExtra),
   ("detect_error", pure .detectError),
   ("accept", pure .accept),
   ("done", pure .done),
   ("parsed numscript source bytes=", do
      let bytes ← number; word " has_error="; let hasError ← oneOf toString [false, true]
      pure (.parsed bytes hasError))]

/-- Takes a report. -/
def read (text : List Glyph) : Reader Event := do
  let head ← oneOf (·.1) (heads text)
  head.2

/-- Takes a line of the log. -/
def readLine (text : List Glyph) : Reader Event := do
  let channel ← oneOf Channel.tag [.summary, .parser, .lexer]
  word " "
  let e ← read text
  if e.channel = channel then pure e else failure

/-- The event that a line of the log of a text reports. -/
def ofLine? (text : List Glyph) (line : String) : Option Event :=
  match (readLine text).run line.toList with
  | some (e, []) => some e
  | _ => none

end Event
end Numscript.Trace
