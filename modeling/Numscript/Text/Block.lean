import Numscript.Text.Quoted

/-!
# Blocks of lines

A block is a list of lines. Blocks are nested into brackets with two more blanks before each line,
and follow each other with commas between them.
-/
namespace Numscript

/-- A list of lines. -/
abbrev Block := List String

namespace Block

/-- A block of one line. -/
def line (text : String) : Block := [text]

/-- A block under a key, which stands before its first line. -/
def keyed (key : String) : Block → Block
  | [] => [Quoted.encode key ++ ": "]
  | first :: rest => (Quoted.encode key ++ ": " ++ first) :: rest

/-- A comma behind the last line. -/
def withComma : Block → Block
  | [] => []
  | [last] => [last ++ ","]
  | first :: rest => first :: withComma rest

/-- Blocks one after another, with commas between them. -/
def separated : List Block → Block
  | [] => []
  | [last] => last
  | first :: rest => withComma first ++ separated rest

/-- Blocks between brackets; nothing stands between them if there are no blocks. -/
def enclosed (opening closing : String) (items : List Block) : Block :=
  if items.isEmpty then [opening ++ closing]
  else opening :: (separated items).map ("  " ++ ·) ++ [closing]

/-- A list of blocks. -/
def list (items : List Block) : Block := enclosed "[" "]" items

/-- A record of blocks under keys. -/
def record (items : List (String × Block)) : Block :=
  enclosed "\x7b" "\x7d" (items.map fun i => keyed i.1 i.2)

/-- The text of a block; every line ends with a line feed. -/
def text (b : Block) : String := String.join (b.map (· ++ "\n"))

end Block
end Numscript
