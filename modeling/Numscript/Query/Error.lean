import Numscript.Text.Alphanumeric
import Numscript.Text.Lines

/-!
# Errors in queries

A query that cannot be read is wrong at one place, for one of four causes. The message names the
place by line and column, and shows the name that is unknown or the line that is wrong.
-/
namespace Numscript.Query

/-- Why a query cannot be read. -/
inductive Cause where
  /-- No node has this name. -/
  | unknownNode
  /-- No field has this name. -/
  | unknownField
  /-- The text is no pattern. -/
  | malformed
  /-- No node can fit the pattern. -/
  | impossible
  deriving DecidableEq, Repr

/-- An error in a query, and its byte offset. -/
structure Error where
  cause : Cause
  offset : Nat
  deriving DecidableEq, Repr

namespace Error

/--
The row, the column and the text of the line that holds an offset. There is no such line when the
offset lies behind the last line feed.
-/
def locate (offset row lineStart : Nat) : List String → Nat × Nat × Option String
  | [] => (row, offset - lineStart, none)
  | line :: rest =>
    let next := lineStart + line.utf8ByteSize + 1
    if offset < next then (row, offset - lineStart, some line)
    else locate offset (row + 1) next rest

/-- What stands at a byte offset and behind it. -/
def textFrom : (offset : Nat) → List Char → List Char
  | _, [] => []
  | 0, text => text
  | offset, c :: rest => textFrom (offset - c.utf8Size) rest

/-- The name that stands at a byte offset. -/
def nameAt (offset : Nat) (source : String) : String :=
  String.ofList ((textFrom offset source.toList).takeWhile fun c =>
    Alphanumeric.contains c || c = '_' || c = '-')

/-- The line that holds an offset, and a mark below it at the offset. -/
def excerpt (source : String) (offset : Nat) : String :=
  match locate offset 0 0 (Lines.ofString source) with
  | (_, column, some line) => line ++ "\n" ++ "".pushn ' ' column ++ "^"
  | (_, _, none) => "Unexpected EOF"

/-- What is wrong with a query, without the place. -/
def detail (source : String) (e : Error) : String :=
  match e.cause with
  | .unknownNode => "Invalid node type " ++ nameAt e.offset source
  | .unknownField => "Invalid field name " ++ nameAt e.offset source
  | .malformed => "Invalid syntax:\n" ++ excerpt source e.offset
  | .impossible => "Impossible pattern:\n" ++ excerpt source e.offset

/-- What is wrong with a query. -/
def message (source : String) (e : Error) : String :=
  let place := locate e.offset 0 0 (Lines.ofString source)
  s!"invalid highlights query: Query error at {place.1 + 1}:{place.2.1 + 1}. {e.detail source}"

end Error
end Numscript.Query
