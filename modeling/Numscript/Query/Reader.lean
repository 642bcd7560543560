import Numscript.Query.Cursor
import Numscript.Query.Error
import Numscript.Query.Search

/-!
# Reading queries

A query is a list of patterns. `read` answers each with the byte offsets at which its parts start,
or the first error. A name is looked up as soon as it is read, a field only behind its pattern.
Whether nodes can fit the patterns is asked when all are read.
-/
namespace Numscript.Query

/-- A pattern, and where its parts start, in the order in which they are written. -/
structure Located where
  pattern : Pattern
  starts : List Nat
  deriving Repr

/-- Where a pattern starts. -/
def Located.start (l : Located) : Nat := l.starts.headD 0

/-- Where the part of a pattern starts that cannot be met, if the pattern is impossible. -/
def Located.impossibleAt? (l : Located) : Option Nat :=
  l.pattern.impossiblePart?.bind (l.starts[·]?)

/-- A pattern that was read, and what follows it. -/
abbrev ReadPattern := Except Error (Located × Cursor)

/-- Reads the captures that follow a pattern, and the white space behind them. -/
def readCaptures (l : Located) : (fuel : Nat) → Cursor → ReadPattern
  | 0, c => .error ⟨.malformed, c.offset⟩
  | fuel + 1, c =>
    let c := c.skip
    match c.rest with
    | '@' :: _ =>
      match c.advance.name? with
      | some (name, c) => readCaptures { l with pattern := .capture l.pattern name } fuel c
      | none => .error ⟨.malformed, c.advance.offset⟩
    | _ => .ok (l, c)

/-- The symbol that a name stands for in a query. -/
def symbol? (name : String) (named : Bool) : Option Symbol :=
  match Symbol.find name named with
  | 0 => none
  | n => Symbol.ofIndex? n

/-- Reads the text of an anonymous node. -/
def readAnonymous (c : Cursor) : ReadPattern :=
  match c.quoted? with
  | none => .error ⟨.malformed, c.offset⟩
  | some (text, after) =>
    match symbol? text false with
    | some s => .ok (⟨.anonymous s, [c.offset]⟩, after)
    | none => .error ⟨.unknownNode, c.offset + 1⟩

/-- Reads the kind of a named node; an underscore stands for every kind. -/
def readKind (c : Cursor) : Except Error (Option Symbol × Cursor) :=
  match c.name? with
  | none => .error ⟨.malformed, c.offset⟩
  | some ("_", after) => .ok (none, after)
  | some (name, after) =>
    match symbol? name true with
    | some s => .ok (some s, after)
    | none => .error ⟨.unknownNode, c.offset⟩

mutual

/-- Reads one pattern with its captures. -/
def readPattern : (fuel : Nat) → Cursor → ReadPattern
  | 0, c => .error ⟨.malformed, c.offset⟩
  | fuel + 1, c => do
    let (l, after) ← readBare fuel c
    readCaptures l (fuel + 1) after

/-- Reads one pattern up to its captures. -/
def readBare : (fuel : Nat) → Cursor → ReadPattern
  | 0, c => .error ⟨.malformed, c.offset⟩
  | fuel + 1, c =>
    match c.rest with
    | '[' :: _ => do
      let first := c.advance.skip
      if first.rest.head? = some ']' then .error ⟨.malformed, first.offset⟩
      else
        let (options, after) ← readUntil ']' fuel first
        .ok (⟨.choice (options.map (·.pattern)), c.offset :: options.flatMap (·.starts)⟩, after)
    | '(' :: _ => do
      let (symbol, name) ← readKind c.advance.skip
      let (children, after) ← readUntil ')' fuel name.skip
      .ok (⟨.named symbol (children.map (·.pattern)), c.offset :: children.flatMap (·.starts)⟩,
        after)
    | '_' :: _ => .ok (⟨.any, [c.offset]⟩, c.advance)
    | '"' :: _ => readAnonymous c
    | _ =>
      match c.name? with
      | none => .error ⟨.malformed, c.offset⟩
      | some (name, after) =>
        match after.skip.rest with
        | ':' :: _ => do
          let (l, after) ← readPattern fuel after.skip.advance.skip
          match Field.ofLabel? name with
          | some f => .ok (⟨.inField f l.pattern, c.offset :: l.starts⟩, after)
          | none => .error ⟨.unknownField, c.offset⟩
        | _ => .error ⟨.malformed, c.offset⟩

/-- Reads patterns up to a bracket that closes them. -/
def readUntil (close : Char) : (fuel : Nat) → Cursor → Except Error (List Located × Cursor)
  | 0, c => .error ⟨.malformed, c.offset⟩
  | fuel + 1, c =>
    if c.rest.head? = some close then .ok ([], c.advance)
    else do
      let (l, after) ← readPattern fuel c
      let (rest, after) ← readUntil close fuel after
      .ok (l :: rest, after)

end

/-- Reads patterns up to the end of the text. -/
def readAll : (fuel : Nat) → Cursor → Except Error (List Located)
  | 0, c => .error ⟨.malformed, c.offset⟩
  | fuel + 1, c =>
    if c.rest.isEmpty then .ok []
    else do
      let (l, after) ← readPattern fuel c
      let rest ← readAll fuel after
      .ok (l :: rest)

/--
Reads the patterns of a query. Every pattern takes up a character, and no character needs more than
three calls, which bounds their number.
-/
def readPatterns (source : String) : Except Error (List Located) :=
  let start := Cursor.ofString source
  readAll (3 * start.rest.length + 3) start.skip

/-- Reads a query, in which no pattern is impossible. -/
def read (source : String) : Except Error (List Located) := do
  let patterns ← readPatterns source
  match patterns.findSome? Located.impossibleAt? with
  | some offset => .error ⟨.impossible, offset⟩
  | none => .ok patterns

end Numscript.Query
