import Numscript.Parser.Reading

/-!
# Parsing a text

`parse` reads a text from its first glyph to its end and answers the tree of the program, or the
place of the error: where the last token or comment ended that a reading could use.
-/
namespace Numscript.Parser

/-- The answer to a text. -/
inductive Result where
  /-- The text is a program. -/
  | valid (root : Tree)
  /-- The text is no program; no reading gets past the point. -/
  | invalid (furthest : Point)
  deriving Repr

/-- The tree of a program. -/
def Result.tree? : Result → Option Tree
  | .valid root => some root
  | .invalid _ => none

/-- The front before the first token. -/
def Front.initial : Front := ⟨[], [⟨[], .origin⟩]⟩

/--
Moves over the text glyph by glyph. Where a reading stands, its next token is read; that takes it
to a later point, where the sweep meets it again.
-/
def sweep (front : Front) (p : Point) : List Glyph → Result
  | [] =>
    match advance p [] front.spine front.readings with
    | .accepted root => .valid root
    | .alive _ => .invalid p
  | g :: rest =>
    if front.readings.any (·.point = p) then
      match advance p (g :: rest) front.spine front.readings with
      | .accepted root => .valid root
      | .alive next =>
        if next.readings.isEmpty then .invalid p else sweep next (p.after g) rest
    else sweep front (p.after g) rest

/-- Parses a text. -/
def parse (text : List Glyph) : Result := sweep Front.initial .origin text

end Numscript.Parser
