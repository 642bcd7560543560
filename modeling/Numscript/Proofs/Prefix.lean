import Numscript.Program
import Numscript.Proofs.Parser.Lexing
import Numscript.Proofs.Text.Sight

/-!
# Errors and the text behind them

An error is decided by the bytes that were looked at when it was found. No text that begins with these bytes is
a program, and the error of each of them stands in the same place: what is written behind cannot mend it, and
cannot move it.
-/
namespace Numscript

/-- The bytes that two texts begin with hold the glyphs of both that a run sees which looks no further. -/
theorem Parser.sees_of_sight {bytes bytes' : List UInt8} {n : Nat} {run : Lexer.Run}
    (within : run.sight bytes ≤ n) (inside : run.sight bytes ≤ bytes.length)
    (same : bytes'.take n = bytes.take n) : Sees (Glyph.ofBytes bytes) (Glyph.ofBytes bytes') run := by
  intro before rest rest' split split' place
  obtain ⟨front, more, rfl, rfl, hfront, _, _⟩ := Glyph.exists_bytes split
  obtain ⟨front', more', rfl, rfl, hfront', _, _⟩ := Glyph.exists_bytes split'
  have hbyte : run.point.byte = front.length := by
    rw [place, Point.origin_behind_byte, hfront]
  rw [Lexer.Run.sight, hbyte, List.drop_left] at within inside
  rw [List.length_append] at inside
  have hmore : more'.take (n - front.length) = more.take (n - front.length) := by
    have hdrop := congrArg (List.drop front.length) same
    rw [List.drop_take, List.drop_take, List.drop_left, hfront, ← hfront', List.drop_left, hfront',
      ← hfront] at hdrop
    exact hdrop
  obtain ⟨hlength, htake⟩ := @Glyph.ofBytes_congr (run.length + 1) more more' _ (by omega) (by omega) hmore
  exact ⟨hlength, htake⟩

/--
If all runs of the lexer that are made until the last reading of a text fails look only at its first `n` bytes,
and none meets the end of the text, then every text that begins with these bytes has its error in the same place.
-/
theorem invalid_of_prefix {bytes bytes' : List UInt8} {n : Nat} {furthest : Point}
    (h : Program.ofBytes bytes = .invalid furthest)
    (within : ∀ run ∈ Parser.lexings (Glyph.ofBytes bytes), run.sight bytes ≤ n)
    (inside : ∀ run ∈ Parser.lexings (Glyph.ofBytes bytes), run.sight bytes ≤ bytes.length)
    (same : bytes'.take n = bytes.take n) : Program.ofBytes bytes' = .invalid furthest := by
  have hsees : ∀ run ∈ Parser.lexings (Glyph.ofBytes bytes),
      Parser.Sees (Glyph.ofBytes bytes) (Glyph.ofBytes bytes') run := fun run hrun =>
    Parser.sees_of_sight (within run hrun) (inside run hrun) same
  have hparse := Parser.parse_congr hsees (Program.ofGlyphs_eq_invalid.1 h)
  exact Program.ofGlyphs_eq_invalid.2 hparse

/-- A program that breaks off where a destination can be read in two ways: there an amount follows whose sign one
reading takes for an operator. The sequence that begins behind it is broken by its second byte. -/
def garbledRemainder : List UInt8 :=
  ("send $a(source=$a destination=\x7bremaining to $a -1".toList.map fun c => c.toNat.toUInt8) ++
    [0xE2, 0x28, 0x20, 0x7D]

/-- The same up to the byte that breaks the sequence. -/
def mendedRemainder : List UInt8 := garbledRemainder.take 51 ++ [0x31, 0x7D, 0x29, 0xFF]

theorem invalid_of_prefix_garbledRemainder : ∃ furthest,
    Program.ofBytes garbledRemainder = .invalid furthest ∧
    (∀ run ∈ Parser.lexings (Glyph.ofBytes garbledRemainder), run.sight garbledRemainder ≤ 51) ∧
    (∀ run ∈ Parser.lexings (Glyph.ofBytes garbledRemainder),
      run.sight garbledRemainder ≤ garbledRemainder.length) ∧
    mendedRemainder.take 51 = garbledRemainder.take 51 ∧
    Program.ofBytes mendedRemainder = .invalid furthest := by
  have hinvalid : (Program.ofBytes garbledRemainder).root?.isNone = true := by decide +kernel
  have hwithin : ∀ run ∈ Parser.lexings (Glyph.ofBytes garbledRemainder), run.sight garbledRemainder ≤ 51 := by
    decide +kernel
  have hinside : ∀ run ∈ Parser.lexings (Glyph.ofBytes garbledRemainder),
      run.sight garbledRemainder ≤ garbledRemainder.length := fun run hrun =>
    Nat.le_trans (hwithin run hrun) (by decide)
  have hsame : mendedRemainder.take 51 = garbledRemainder.take 51 := by decide
  cases hprogram : Program.ofBytes garbledRemainder with
  | invalid furthest =>
    exact ⟨furthest, rfl, hwithin, hinside, hsame, invalid_of_prefix hprogram hwithin hinside hsame⟩
  | valid root =>
    rw [hprogram] at hinvalid
    cases hinvalid

end Numscript
