import Numscript.Text.Point

/-!
# Places of a text

Every glyph takes room, so a place of a text is known by its point, and the glyphs between two places
are the ones that stand there.
-/
namespace Numscript

theorem Glyph.size_pos (g : Glyph) : 0 < g.size := by
  unfold size
  split
  · repeat' split
    all_goals omega
  · omega

theorem Glyph.totalSize_append (s t : List Glyph) :
    totalSize (s ++ t) = totalSize s + totalSize t := by
  induction s with
  | nil => simp [totalSize]
  | cons g s ih => rw [List.cons_append, totalSize, totalSize, ih, Nat.add_assoc]

theorem Glyph.eq_nil_of_totalSize {s : List Glyph} (h : totalSize s = 0) : s = [] := by
  cases s with
  | nil => rfl
  | cons g s =>
    have hpos := g.size_pos
    rw [totalSize] at h
    omega

theorem Glyph.eq_of_totalSize {a b x y : List Glyph} (h : a ++ x = b ++ y)
    (hsize : totalSize a = totalSize b) : a = b ∧ x = y := by
  rcases List.append_eq_append_iff.1 h with ⟨m, rfl, rfl⟩ | ⟨m, rfl, rfl⟩
  · rw [totalSize_append] at hsize
    obtain rfl := eq_nil_of_totalSize (s := m) (by omega)
    simp
  · rw [totalSize_append] at hsize
    obtain rfl := eq_nil_of_totalSize (s := m) (by omega)
    simp

theorem Point.origin_behind_byte (text : List Glyph) :
    (origin.behind text).byte = Glyph.totalSize text :=
  (behind_byte origin text).trans (Nat.zero_add _)

theorem Point.eq_of_behind {a b x y : List Glyph} (h : a ++ x = b ++ y)
    (hp : origin.behind a = origin.behind b) : a = b ∧ x = y := by
  have hbyte := congrArg Point.byte hp
  rw [origin_behind_byte, origin_behind_byte] at hbyte
  exact Glyph.eq_of_totalSize h hbyte

theorem Point.eq_nil_of_origin {before : List Glyph} (h : origin = origin.behind before) :
    before = [] := by
  refine Glyph.eq_nil_of_totalSize ?_
  rw [← origin_behind_byte, ← h]
  rfl

namespace Glyph

theorem totalSize_lt {a b x y : List Glyph} (h : a ++ x = b ++ y) (hlt : a.length < b.length) :
    totalSize a < totalSize b := by
  rcases List.append_eq_append_iff.1 h with ⟨m, rfl, rfl⟩ | ⟨m, rfl, rfl⟩
  · have hne : totalSize m ≠ 0 := by
      intro hm
      simp [eq_nil_of_totalSize hm] at hlt
    rw [totalSize_append]
    omega
  · rw [List.length_append] at hlt
    omega

theorem between_stop {start stop offset : Nat} (text : List Glyph) (h : stop ≤ offset) :
    between.go start stop offset text = [] := by
  cases text with
  | nil => rfl
  | cons g text => rw [between.go, if_pos h]

theorem between_skip {start stop offset : Nat} {skipped text : List Glyph}
    (h : offset + totalSize skipped ≤ start) (hle : start ≤ stop) :
    between.go start stop offset (skipped ++ text) =
      between.go start stop (offset + totalSize skipped) text := by
  induction skipped generalizing offset with
  | nil => rfl
  | cons g skipped ih =>
    have hpos := g.size_pos
    rw [totalSize] at h ⊢
    rw [List.cons_append, between.go, if_neg (by omega), if_pos (by omega), ih (by omega),
      Nat.add_assoc]

theorem between_take {start stop offset : Nat} {word text : List Glyph} (h : start ≤ offset)
    (hle : offset + totalSize word ≤ stop) :
    between.go start stop offset (word ++ text) =
      word ++ between.go start stop (offset + totalSize word) text := by
  induction word generalizing offset with
  | nil => rfl
  | cons g word ih =>
    have hpos := g.size_pos
    rw [totalSize] at hle ⊢
    rw [List.cons_append, between.go, if_neg (by omega), if_neg (by omega),
      ih (by omega) (by omega), List.cons_append, Nat.add_assoc]

theorem between_word (before word after : List Glyph) :
    between (totalSize before) (totalSize (before ++ word)) (before ++ word ++ after) = word := by
  have hsize := totalSize_append before word
  rw [between, List.append_assoc, between_skip (by omega) (by omega), Nat.zero_add,
    between_take (Nat.le_refl _) (by omega), between_stop after (by omega), List.append_nil]

theorem between_self (place : Nat) (text : List Glyph) : between place place text = [] := by
  have hgo : ∀ offset, between.go place place offset text = [] := by
    intro offset
    induction text generalizing offset with
    | nil => rfl
    | cons g text ih =>
      rw [between.go]
      split
      · rfl
      · rw [if_pos (by omega), ih]
  exact hgo 0

end Glyph
end Numscript
