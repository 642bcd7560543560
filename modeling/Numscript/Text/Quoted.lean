/-!
# Quoted texts

A text between quotes. A quote or a backslash in the text is written with a backslash before it.
-/
namespace Numscript.Quoted

/-- The characters that stand for one character of a quoted text. -/
def escape (c : Char) : List Char := if c = '"' ∨ c = '\\' then ['\\', c] else [c]

/-- A text in quotes. -/
def encode (text : String) : String :=
  String.ofList ('"' :: text.toList.flatMap escape ++ ['"'])

end Numscript.Quoted
