import Numscript.Proofs.Text.Bytes

/-!
# Slices of a text

The bytes between two places of a text are read as the glyphs that stand there. A sequence of bytes is read without
regard to what follows it, and a byte that is stray stays so when the text is cut behind it.
-/
namespace Numscript

namespace Glyph

theorem Sequence.append {b : UInt8} {rest : List UInt8} {code more : Nat} (h : Sequence b rest code more)
    (bytes : List UInt8) : Sequence b (rest ++ bytes) code more := by
  cases h with
  | one high => exact .one high
  | two low high hc => exact .two low high hc
  | three low high hc hd hcode valid => exact .three low high hc hd hcode valid
  | four low high hc hd he hcode valid => exact .four low high hc hd he hcode valid

theorem Sequence.take {b : UInt8} {rest : List UInt8} {code more : Nat} (h : Sequence b rest code more) :
    Sequence b (rest.take more) code more := by
  cases h with
  | one high => exact .one high
  | two low high hc => exact .two low high hc
  | three low high hc hd hcode valid => exact .three low high hc hd hcode valid
  | four low high hc hd he hcode valid => exact .four low high hc hd he hcode valid

/-- The bytes before a place of a text are read as the glyphs before it. -/
theorem ofBytes_take {bytes : List UInt8} {before rest : List Glyph} (h : ofBytes bytes = before ++ rest) :
    ofBytes (bytes.take (totalSize before)) = before := by
  induction before generalizing bytes with
  | nil => rfl
  | cons g before ih =>
    cases bytes with
    | nil => cases h
    | cons b bytes =>
      rw [ofBytes, ofBytesAfter] at h
      cases hfront : front? b bytes with
      | some read =>
        obtain ⟨code, more⟩ := read
        simp only [hfront, ofBytesAfter_eq] at h
        obtain ⟨rfl, hrest⟩ := List.cons.inj h
        have hsize : totalSize (.char code :: before) = more + totalSize before + 1 := by
          rw [totalSize, (size_front hfront).1]
          omega
        have hlength : (bytes.take more).length = more := List.length_take_of_le (size_front hfront).2
        have hcut : bytes.take (more + totalSize before) =
            bytes.take more ++ (bytes.drop more).take (totalSize before) := List.take_add
        have hread : front? b (bytes.take (more + totalSize before)) = some (code, more) := by
          rw [hcut]
          exact ((sequence_of_front? hfront).take.append _).front?
        rw [hsize, List.take_succ_cons, ofBytes, ofBytesAfter, hread]
        simp only [ofBytesAfter_eq]
        rw [hcut, List.drop_left' hlength, ih hrest]
      | none =>
        simp only [hfront] at h
        obtain ⟨rfl, hrest⟩ := List.cons.inj h
        have hread : front? b (bytes.take (totalSize before)) = none := by
          cases hread : front? b (bytes.take (totalSize before)) with
          | none => rfl
          | some read =>
            have hmore := ((sequence_of_front? hread).append (bytes.drop (totalSize before))).front?
            rw [List.take_append_drop, hfront] at hmore
            cases hmore
        rw [totalSize, size, Nat.add_comm, List.take_succ_cons, ofBytes, ofBytesAfter, hread]
        exact congrArg _ (ih hrest)

end Glyph

/-- A place between two glyphs of a text. -/
def Point.IsPlace (text : List Glyph) (p : Point) : Prop :=
  ∃ before rest, text = before ++ rest ∧ p = origin.behind before

/-- The glyphs between two places of a text are what the bytes between them are read as. -/
theorem Glyph.between_of_places {bytes : List UInt8} {start stop : Point} (hstart : start.IsPlace (ofBytes bytes))
    (hstop : stop.IsPlace (ofBytes bytes)) (hle : start.byte ≤ stop.byte) :
    between start.byte stop.byte (ofBytes bytes) = ofBytes ((bytes.take stop.byte).drop start.byte) := by
  obtain ⟨before, rest, hbefore, rfl⟩ := hstart
  obtain ⟨front, after, hfront, rfl⟩ := hstop
  rw [Point.origin_behind_byte, Point.origin_behind_byte] at hle ⊢
  obtain ⟨word, rfl⟩ : ∃ word, front = before ++ word := by
    rcases List.append_eq_append_iff.1 (hbefore.symm.trans hfront) with ⟨word, hword, _⟩ | ⟨word, hword, _⟩
    · exact ⟨word, hword⟩
    · rw [hword, totalSize_append] at hle
      have hnil : word = [] := eq_nil_of_totalSize (by omega)
      exact ⟨[], by rw [hword, hnil, List.append_nil, List.append_nil]⟩
  have hword : between (totalSize before) (totalSize (before ++ word)) (ofBytes bytes) = word := by
    rw [hfront]
    exact between_word before word after
  rw [List.append_assoc] at hfront
  obtain ⟨first, more, rfl, hmore, hfirst, _, _⟩ := exists_bytes hfront
  rw [hword, totalSize_append, ← hfirst, List.take_length_add_append, List.drop_left, ofBytes_take hmore]

end Numscript
