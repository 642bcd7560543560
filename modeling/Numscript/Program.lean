import Numscript.Parser.Parse
import Numscript.Tree.Node

/-!
# Programs

A program is read from bytes. A valid one has a visible tree, and an invalid one has the place of
its first error.
-/
namespace Numscript

/-- What is known of a text after it was read. -/
inductive Program where
  /-- The text is a program with this tree. -/
  | valid (root : Node)
  /-- The text is no program; it is wrong behind this point. -/
  | invalid (furthest : Point)
  deriving Repr

namespace Program

/-- Reads a text. -/
def ofGlyphs (text : List Glyph) : Program :=
  match Parser.parse text with
  | .valid root => .valid (root.program (Point.origin.behind text))
  | .invalid furthest => .invalid furthest

theorem ofGlyphs_eq_valid {text : List Glyph} {root : Node} : ofGlyphs text = .valid root ↔
    ∃ tree, Parser.parse text = .valid tree ∧ root = tree.program (Point.origin.behind text) := by
  unfold ofGlyphs
  cases Parser.parse text with
  | valid tree =>
    refine ⟨fun h => ⟨tree, rfl, (Program.valid.inj h).symm⟩, ?_⟩
    rintro ⟨_, h, rfl⟩
    cases h
    rfl
  | invalid furthest =>
    refine ⟨fun h => (by cases h), ?_⟩
    rintro ⟨_, h, _⟩
    cases h

theorem ofGlyphs_eq_invalid {text : List Glyph} {furthest : Point} :
    ofGlyphs text = .invalid furthest ↔ Parser.parse text = .invalid furthest := by
  unfold ofGlyphs
  cases Parser.parse text with
  | valid tree => exact ⟨fun h => (by cases h), fun h => (by cases h)⟩
  | invalid p => rw [Program.invalid.injEq, Parser.Result.invalid.injEq]

/-- Reads a text that is given as bytes. -/
def ofBytes (bytes : List UInt8) : Program := ofGlyphs (Glyph.ofBytes bytes)

/-- The tree of a valid program. -/
def root? : Program → Option Node
  | .valid root => some root
  | .invalid _ => none

end Program
end Numscript
