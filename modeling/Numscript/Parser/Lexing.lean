import Numscript.Parser.Parse
import Numscript.Text.Sight

/-!
# The lexer runs of a parse

Parsing looks at the text through the lexer only. `lexings` lists the runs of the lexer that a parse makes, up
to where its last reading fails: every reading reads its next token in the mode of its state, and in the error
mode where that finds none. A run looks at the glyphs that it passes, and at the one before which it stops.
-/
namespace Numscript

/-- The number of bytes of a text from its start up to where a run of the lexer looks. -/
def Lexer.Run.sight (bytes : List UInt8) (r : Run) : Nat :=
  r.point.byte + Glyph.sight (r.length + 1) (bytes.drop r.point.byte)

/-- The runs of the lexer with which a mode looks for the token at a point. -/
def Lexer.attempts (mode : Nat) (p : Point) (text : List Glyph) : List Run :=
  if (run mode p text).scan.found.isSome then [run mode p text]
  else [run mode p text, run errorMode p text]

namespace Parser

/-- The runs of the lexer that read the token behind a stack. -/
def stackLexings (below : Option Nat) (p : Point) (text : List Glyph) (stack : Stack) :
    List Lexer.Run :=
  match (stack.top? below).bind Automaton.mode? with
  | none => []
  | some mode => Lexer.attempts mode p text

/-- The runs of the lexer that read a token in every reading that stands at a point. -/
def lexingsAt (below : Option Nat) (p : Point) (text : List Glyph) (readings : List Reading) :
    List Lexer.Run :=
  readings.flatMap fun r => if r.point = p then stackLexings below p text r.stack else []

/-- The runs of the lexer with which a front reads one token more. -/
def advanceLexings (p : Point) (text : List Glyph) : (spine : List Junction) →
    (readings : List Reading) → List Lexer.Run
  | [], readings => lexingsAt ground p text readings
  | j :: spine, readings =>
    lexingsAt none p text readings ++
      if isShort (endingsAt none p text readings) then advanceLexings p text spine (j.lower readings)
      else []

/-- The runs of the lexer with which a front is moved over a text. -/
def sweepLexings (front : Front) (p : Point) : List Glyph → List Lexer.Run
  | [] => advanceLexings p [] front.spine front.readings
  | g :: rest =>
    if front.readings.any (·.point = p) then
      advanceLexings p (g :: rest) front.spine front.readings ++
        match advance p (g :: rest) front.spine front.readings with
        | .accepted _ => []
        | .alive next => if next.readings.isEmpty then [] else sweepLexings next (p.after g) rest
    else sweepLexings front (p.after g) rest

/-- The runs of the lexer with which a text is parsed. -/
def lexings (text : List Glyph) : List Lexer.Run := sweepLexings Front.initial .origin text

end Parser
end Numscript
