import Numscript.Lexer.Scan
import Numscript.Text.Point

/-!
# Tokens

A token of a text has a kind and a place. `lookahead?` reads the token at a place in a mode of the
lexer; where the mode finds nothing, every token is tried.
-/
namespace Numscript

/-- A token and its place, without the white space before it. -/
structure Token where
  kind : Terminal
  start : Point
  stop : Point
  deriving DecidableEq, Repr

namespace Lexer

/-- A run of the lexer at a place of a text. -/
structure Run where
  /-- The state the run starts in. -/
  mode : Nat
  /-- Where the run starts. -/
  point : Point
  /-- The number of byte order marks passed over first, at most one and only at byte zero. -/
  marks : Nat
  /-- What was found behind the mark. -/
  scan : Scan
  deriving DecidableEq, Repr

/-- Runs the lexer in a mode on the text that begins at a point. -/
def run (mode : Nat) (p : Point) (text : List Glyph) : Run :=
  if p.byte = 0 ∧ text.head? = some .byteOrderMark then ⟨mode, p, 1, Lexer.scan mode text.tail⟩
  else ⟨mode, p, 0, Lexer.scan mode text⟩

namespace Run

/-- The glyphs passed over before the token. -/
def lead (r : Run) : Nat := r.marks + r.scan.start

/-- The glyphs passed by the run. -/
def length (r : Run) : Nat := r.marks + r.scan.stop

/-- The token that the run found in the text it read. -/
def token? (r : Run) (text : List Glyph) : Option Token :=
  r.scan.found.map fun f =>
    ⟨f.1, r.point.behind (text.take r.lead), r.point.behind (text.take (r.marks + f.2))⟩

end Run

/-- The token at a point: read in a mode, or, where the mode finds none, in the error mode. -/
def lookahead? (mode : Nat) (p : Point) (text : List Glyph) : Option Token :=
  ((run mode p text).token? text).or ((run errorMode p text).token? text)

end Lexer
end Numscript
