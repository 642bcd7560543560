/-!
# Lines

The lines of a text, without the line feeds that end them. A carriage return before a line feed
belongs to the end of the line. There is no line behind the last line feed.
-/
namespace Numscript.Lines

/-- A line without a carriage return at its end. -/
def trimReturn (line : List Char) : List Char :=
  if line.getLast? = some '\r' then line.dropLast else line

/-- Gathers the characters of the current line, last one first. -/
def gather (current : List Char) : List Char → List (List Char)
  | [] => if current.isEmpty then [] else [current.reverse]
  | '\n' :: rest => trimReturn current.reverse :: gather [] rest
  | c :: rest => gather (c :: current) rest

/-- The lines of a text. -/
def ofString (text : String) : List String := (gather [] text.toList).map String.ofList

end Numscript.Lines
