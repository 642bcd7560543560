/-!
# Reading the text of a query

A cursor is what is left of the text of a query, and where it starts. White space and comments,
which run from a semicolon to the end of the line, separate the parts of a query.
-/
namespace Numscript.Query

/-- What is left of a text, and the byte offset at which it starts. -/
structure Cursor where
  offset : Nat
  rest : List Char
  deriving DecidableEq, Repr

namespace Cursor

/-- The start of a text. -/
def ofString (text : String) : Cursor := ⟨0, text.toList⟩

/-- Passes over one character. -/
def advance : Cursor → Cursor
  | ⟨offset, []⟩ => ⟨offset, []⟩
  | ⟨offset, c :: rest⟩ => ⟨offset + c.utf8Size, rest⟩

/-- White space between the parts of a query. -/
def isBlank (c : Char) : Bool := c = ' ' || (9 ≤ c.toNat && c.toNat ≤ 13)

/-- Passes over white space and comments; `comment` says that the text starts inside of one. -/
def skipFrom (comment : Bool) (offset : Nat) : List Char → Cursor
  | [] => ⟨offset, []⟩
  | c :: rest =>
    if comment && c ≠ '\x00' then skipFrom (c ≠ '\n') (offset + c.utf8Size) rest
    else if isBlank c then skipFrom false (offset + c.utf8Size) rest
    else if c = ';' then skipFrom true (offset + c.utf8Size) rest
    else ⟨offset, c :: rest⟩

/-- Passes over white space and comments. -/
def skip (c : Cursor) : Cursor := skipFrom false c.offset c.rest

/-- What a name can start with. -/
def startsName (c : Char) : Bool := c.isAlphanum || c = '_' || c = '-'

/-- What a name can go on with. -/
def inName (c : Char) : Bool := startsName c || c = '.' || c = '?' || c = '!'

/-- Reads a name, if one starts here. -/
def name? (c : Cursor) : Option (String × Cursor) :=
  match c.rest with
  | [] => none
  | first :: _ =>
    if startsName first then
      let name := String.ofList (c.rest.takeWhile inName)
      some (name, ⟨c.offset + name.utf8ByteSize, c.rest.dropWhile inName⟩)
    else none

/-- The character that an escaped one stands for. -/
def unescape (c : Char) : Char :=
  if c = 'n' then '\n' else if c = 'r' then '\r' else if c = 't' then '\t'
  else if c = '0' then '\x00' else c

/-- Reads a text up to the quote that closes it. An unescaped line feed cannot stand in it. -/
def quotedFrom (escaped : Bool) (read : List Char) (offset : Nat) :
    List Char → Option (String × Cursor)
  | [] => none
  | c :: rest =>
    if escaped then quotedFrom false (unescape c :: read) (offset + c.utf8Size) rest
    else if c = '\\' then quotedFrom true read (offset + c.utf8Size) rest
    else if c = '"' then some (String.ofList read.reverse, ⟨offset + c.utf8Size, rest⟩)
    else if c = '\n' then none
    else quotedFrom false (c :: read) (offset + c.utf8Size) rest

/-- Reads a text in quotes, if one starts here and is closed. -/
def quoted? (c : Cursor) : Option (String × Cursor) :=
  match c.rest with
  | '"' :: rest => quotedFrom false [] (c.offset + 1) rest
  | _ => none

end Cursor
end Numscript.Query
