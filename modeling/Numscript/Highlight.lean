import Numscript.Query.Match
import Numscript.Text.Point

/-!
# Highlighting

The bundled query gives a name to every token that an editor colours. It is kept as sections of
patterns; `Highlight.text` is the query as a file, and `captures` runs it over a tree.
-/
namespace Numscript.Highlight

open Numscript.Query (Pattern)

/-- A part of the query under a heading. Groups of patterns are set apart by an empty line. -/
structure Section where
  heading : String
  groups : List (List Pattern)

/-- Named nodes of a kind that is a token. -/
def token (t : Terminal) : Pattern := .named (some (.terminal t)) []

/-- Keywords and punctuation of a list. -/
def texts (l : List Terminal) : Pattern := .choice (l.map fun t => .anonymous (.terminal t))

/-- The parts of the query. -/
def sections : List Section :=
  [⟨"Comments",
     [[.capture (token .lineComment) "comment",
       .capture (token .multilineComment) "comment"]]⟩,
   ⟨"Literals",
     [[.capture (token .string) "string",
       .capture (token .number) "number",
       .capture (token .percentagePortion) "number",
       .capture (token .asset) "constant"],
      [.named (some (.nonterminal .accountLiteral))
         [.capture (.anonymous (.terminal .atSign)) "punctuation.special"],
       .capture (token .accountText) "string.special"]]⟩,
   ⟨"Variables",
     [[.capture (token .variableName) "variable",
       .capture (.named (some (.alias .accountVar)) []) "variable"],
      [.named (some (.nonterminal .varDeclaration))
         [.inField .type (.capture (token .identifier) "type")]]]⟩,
   ⟨"Functions",
     [[.named (some (.nonterminal .functionCall))
         [.inField .name (.capture (token .identifier) "function.call")]],
      [.named (some (.nonterminal .functionCall))
         [.inField .name
           (.capture (.anonymous (.terminal .kwOverdraft)) "function.builtin")]]]⟩,
   ⟨"Keywords",
     [[.capture (token .destinationKept) "keyword",
       .capture (.named (some (.nonterminal .remainingAllotment)) []) "keyword"],
      [.capture (texts [.kwVars, .kwSend, .kwSave, .kwSource, .kwDestination, .kwFrom, .kwTo,
         .kwMax, .kwOneof, .kwRemaining, .kwAllowing, .kwUnbounded, .kwOverdraft, .kwUp])
         "keyword"]]⟩,
   ⟨"Operators and punctuation",
     [[.capture (texts [.plus, .minus, .slash, .star, .equals, .backslash]) "operator"],
      [.capture (texts [.lparen, .rparen, .lbracket, .rbracket, .lbrace, .rbrace])
         "punctuation.bracket"],
      [.capture (texts [.comma, .colon]) "punctuation.delimiter"]]⟩]

/-- The patterns of the query, in the order of their numbers. -/
def patterns : List Pattern := sections.flatMap fun s => s.groups.flatten

/-- A section as it stands in the file, without an empty line behind it. -/
def Section.text (s : Section) : String :=
  "; " ++ s.heading ++ "\n" ++
    String.join (s.groups.map fun g => "\n" ++ String.join (g.map fun p => p.text ++ "\n"))

/-- The query as a file. -/
def text : String := "\n".intercalate (sections.map Section.text)

/-- A node that a pattern of the query captured, and what it is captured as. -/
structure Mark where
  /-- The number of the pattern. -/
  pattern : Nat
  name : String
  label : Label
  deriving DecidableEq, Repr

/-- The marks that the numbered patterns leave on a node. -/
def marksOf (numbered : List (Pattern × Nat)) (n : Node) : List Mark :=
  numbered.flatMap fun (p, i) =>
    (p.fits n).flatMap fun found => found.map fun c => ⟨i, c.name, c.node.label⟩

mutual

/-- The marks on a node and on all nodes below it. -/
def marksBelow (numbered : List (Pattern × Nat)) : Node → List Mark
  | .mk label children =>
    marksOf numbered (.mk label children) ++ marksBelowAll numbered children

/-- The marks on a list of nodes and on all nodes below them. -/
def marksBelowAll (numbered : List (Pattern × Nat)) : List Node → List Mark
  | [] => []
  | n :: rest => marksBelow numbered n ++ marksBelowAll numbered rest

end

/-- Marks are listed by their start, their end, the number of the pattern, and the name. -/
def Mark.before (a b : Mark) : Bool :=
  if a.label.start.byte ≠ b.label.start.byte then a.label.start.byte < b.label.start.byte
  else if a.label.stop.byte ≠ b.label.stop.byte then a.label.stop.byte < b.label.stop.byte
  else if a.pattern ≠ b.pattern then a.pattern < b.pattern
  else a.name ≤ b.name

/-- All marks of the query on a tree, in order. -/
def captures (root : Node) : List Mark :=
  (marksBelow patterns.zipIdx root).mergeSort Mark.before

end Numscript.Highlight
