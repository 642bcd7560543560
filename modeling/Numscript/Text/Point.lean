import Numscript.Text.Glyph

/-!
# Points

A point is a place between two glyphs of a text: its byte offset, its row, and its column, which
counts the bytes since the start of the row. `Point.after` moves a point over a glyph.
-/
namespace Numscript

/-- A place in a text. Rows and columns count from zero, columns in bytes. -/
structure Point where
  byte : Nat
  row : Nat
  column : Nat
  deriving DecidableEq, Repr

namespace Point

/-- The start of a text. -/
def origin : Point := ⟨0, 0, 0⟩

/-- The point behind a glyph: a line feed opens the next row, all else widens the column. -/
def after (p : Point) (g : Glyph) : Point :=
  if g = .lineFeed then ⟨p.byte + g.size, p.row + 1, 0⟩
  else ⟨p.byte + g.size, p.row, p.column + g.size⟩

/-- The point behind a list of glyphs. -/
def behind (p : Point) (text : List Glyph) : Point := text.foldl after p

@[simp] theorem after_byte (p : Point) (g : Glyph) : (p.after g).byte = p.byte + g.size := by
  unfold after
  split <;> rfl

theorem behind_append (p : Point) (s t : List Glyph) : p.behind (s ++ t) = (p.behind s).behind t :=
  List.foldl_append

/-- A point moves as many bytes as the glyphs take that it moves over. -/
theorem behind_byte (p : Point) (text : List Glyph) :
    (p.behind text).byte = p.byte + Glyph.totalSize text := by
  induction text generalizing p with
  | nil => rfl
  | cons g rest ih =>
    have h := ih (p.after g)
    rw [after_byte] at h
    simp only [Glyph.totalSize]
    rw [← Nat.add_assoc]
    exact h

end Point

/-- The glyphs of a text from byte offset `start` up to byte offset `stop`. -/
def Glyph.between (start stop : Nat) (text : List Glyph) : List Glyph := go 0 text
where
  /-- `offset` is where the list begins. -/
  go (offset : Nat) : List Glyph → List Glyph
    | [] => []
    | g :: rest =>
      if stop ≤ offset then []
      else if offset < start then go (offset + g.size) rest
      else g :: go (offset + g.size) rest

end Numscript
