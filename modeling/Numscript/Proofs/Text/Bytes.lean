import Numscript.Proofs.Text.Place

/-!
# Glyphs and their bytes

Every glyph of a text that is read from bytes stands for a chunk of them. The byte of a line feed occurs
in the chunk of the line feed and in no other, so the point behind some glyphs can be read off the bytes
alone: its row is the number of line feeds before it, and its column the number of bytes since the last
one.
-/
namespace Numscript

/-- The byte of a line feed. -/
def lineFeedByte : UInt8 := 10

/-- White space as bytes. -/
def isBlankByte (b : UInt8) : Bool := (9 ≤ b.toNat && b.toNat ≤ 13) || b.toNat = 32

/-- The byte order mark as bytes. -/
def markBytes : List UInt8 := [0xEF, 0xBB, 0xBF]

/-- The point behind some bytes: how many they are, the line feeds, and the bytes since the last one. -/
def Point.ofBytes (bytes : List UInt8) : Point :=
  ⟨bytes.length, bytes.count lineFeedByte, (bytes.reverse.takeWhile (· != lineFeedByte)).length⟩

namespace Glyph

/-- The bytes that a glyph stands for, as far as points and white space depend on them. -/
structure Chunk (g : Glyph) (bytes : List UInt8) : Prop where
  length : bytes.length = g.size
  lineFeed : bytes = [lineFeedByte] ∧ g = .lineFeed ∨ lineFeedByte ∉ bytes ∧ g ≠ .lineFeed
  blank : g.isBlank = true → bytes.all isBlankByte = true
  mark : g = .byteOrderMark → bytes = markBytes

theorem payload?_eq_some {b : UInt8} {x : Nat} (h : payload? b = some x) :
    b.toNat = 0x80 + x ∧ x < 64 := by
  unfold payload? at h
  split at h
  · simp only [Option.some.injEq] at h
    omega
  · cases h

theorem ne_lineFeedByte {b : UInt8} (h : 0x80 ≤ b.toNat) : b ≠ lineFeedByte := by
  rintro rfl
  revert h
  decide

theorem chunk_stray {b : UInt8} (h : 0x80 ≤ b.toNat) : Chunk .stray [b] where
  length := rfl
  lineFeed := .inr ⟨by simpa using (ne_lineFeedByte h).symm, nofun⟩
  blank := nofun
  mark := nofun

/-- A code point of several bytes is neither white space nor a line feed. -/
theorem chunk_of_long {code : Nat} {bytes : List UInt8} (hcode : 0x80 ≤ code)
    (length : bytes.length = (Glyph.char code).size) (high : ∀ b ∈ bytes, 0x80 ≤ b.toNat)
    (mark : code = 0xFEFF → bytes = markBytes) : Chunk (.char code) bytes where
  length := length
  lineFeed := by
    refine .inr ⟨fun hmem => ne_lineFeedByte (high _ hmem) rfl, ?_⟩
    simp only [Glyph.lineFeed, ne_eq, Glyph.char.injEq]
    omega
  blank h := by
    simp only [isBlank, Bool.or_eq_true, Bool.and_eq_true, decide_eq_true_eq] at h
    omega
  mark h := mark (Glyph.char.inj h)

theorem chunk_ascii {b : UInt8} (h : b.toNat < 0x80) : Chunk (.char b.toNat) [b] where
  length := by simp [size, h]
  lineFeed := by
    by_cases hb : b = lineFeedByte
    · subst hb
      exact .inl ⟨rfl, rfl⟩
    · refine .inr ⟨by simpa using fun heq => hb heq.symm, fun heq => hb ?_⟩
      have hcode := Glyph.char.inj heq
      exact UInt8.toNat_inj.1 hcode
  blank hblank := by simpa [isBlank, isBlankByte] using hblank
  mark heq := by
    have hcode := Glyph.char.inj heq
    omega

/-- How a code point is read from a first byte and the bytes behind it. -/
inductive Sequence (b : UInt8) : List UInt8 → Nat → Nat → Prop where
  | one {rest : List UInt8} (high : b.toNat < 0x80) : Sequence b rest b.toNat 0
  | two {c : UInt8} {rest : List UInt8} {x : Nat} (low : 0xC2 ≤ b.toNat) (high : b.toNat < 0xE0)
      (hc : payload? c = some x) : Sequence b (c :: rest) ((b.toNat - 0xC0) * 64 + x) 1
  | three {c d : UInt8} {rest : List UInt8} {x y code : Nat} (low : 0xE0 ≤ b.toNat)
      (high : b.toNat < 0xF0) (hc : payload? c = some x) (hd : payload? d = some y)
      (hcode : code = (b.toNat - 0xE0) * 4096 + x * 64 + y)
      (valid : ¬(code < 0x800 ∨ 0xD800 ≤ code ∧ code < 0xE000)) :
      Sequence b (c :: d :: rest) code 2
  | four {c d e : UInt8} {rest : List UInt8} {x y z code : Nat} (low : 0xF0 ≤ b.toNat)
      (high : b.toNat < 0xF5) (hc : payload? c = some x) (hd : payload? d = some y)
      (he : payload? e = some z)
      (hcode : code = (b.toNat - 0xF0) * 262144 + x * 4096 + y * 64 + z)
      (valid : ¬(code < 0x10000 ∨ 0x10FFFF < code)) :
      Sequence b (c :: d :: e :: rest) code 3

theorem sequence_of_front? {b : UInt8} {rest : List UInt8} {code more : Nat}
    (h : front? b rest = some (code, more)) : Sequence b rest code more := by
  unfold front? at h
  split at h
  · next hb =>
    obtain ⟨rfl, rfl⟩ := Prod.mk.inj (Option.some.inj h)
    exact .one hb
  split at h
  · cases h
  split at h
  · next hlow hhigh =>
    split at h
    · obtain ⟨x, hc, hpair⟩ := Option.map_eq_some_iff.1 h
      obtain ⟨rfl, rfl⟩ := Prod.mk.inj hpair
      exact .two (by omega) hhigh hc
    · cases h
  split at h
  · next hlow hhigh =>
    split at h
    · obtain ⟨x, hc, h⟩ := Option.bind_eq_some_iff.1 h
      obtain ⟨y, hd, h⟩ := Option.bind_eq_some_iff.1 h
      obtain ⟨hvalid, h⟩ := Option.ite_none_left_eq_some.1 h
      obtain ⟨rfl, rfl⟩ := Prod.mk.inj (Option.some.inj h)
      exact .three (by omega) hhigh hc hd rfl hvalid
    · cases h
  split at h
  · next hlow hhigh =>
    split at h
    · obtain ⟨x, hc, h⟩ := Option.bind_eq_some_iff.1 h
      obtain ⟨y, hd, h⟩ := Option.bind_eq_some_iff.1 h
      obtain ⟨z, he, h⟩ := Option.bind_eq_some_iff.1 h
      obtain ⟨hvalid, h⟩ := Option.ite_none_left_eq_some.1 h
      obtain ⟨rfl, rfl⟩ := Prod.mk.inj (Option.some.inj h)
      exact .four (by omega) hhigh hc hd he rfl hvalid
    · cases h
  · cases h


theorem Sequence.front? {b : UInt8} {rest : List UInt8} {code more : Nat}
    (h : Sequence b rest code more) : Glyph.front? b rest = some (code, more) := by
  rw [front?.eq_def]
  cases h with
  | one high => rw [if_pos high]
  | two low high hc =>
    rw [if_neg (by omega), if_neg (by omega), if_pos high]
    exact Option.map_eq_some_iff.2 ⟨_, hc, rfl⟩
  | three low high hc hd hcode valid =>
    rw [if_neg (by omega), if_neg (by omega), if_neg (by omega), if_pos high]
    refine Option.bind_eq_some_iff.2 ⟨_, hc, Option.bind_eq_some_iff.2 ⟨_, hd, ?_⟩⟩
    subst hcode
    exact if_neg valid
  | four low high hc hd he hcode valid =>
    rw [if_neg (by omega), if_neg (by omega), if_neg (by omega), if_neg (by omega), if_pos high]
    refine Option.bind_eq_some_iff.2 ⟨_, hc, Option.bind_eq_some_iff.2 ⟨_, hd,
      Option.bind_eq_some_iff.2 ⟨_, he, ?_⟩⟩⟩
    subst hcode
    exact if_neg valid

theorem chunk_front {b : UInt8} {rest : List UInt8} {code more : Nat}
    (h : front? b rest = some (code, more)) : Chunk (.char code) (b :: rest.take more) := by
  have hsize := size_front h
  have hlength : (b :: rest.take more).length = (Glyph.char code).size := by
    rw [hsize.1, List.length_cons, List.length_take]
    omega
  cases sequence_of_front? h with
  | one high => exact chunk_ascii high
  | two low high hc =>
    obtain ⟨hcx, hx⟩ := payload?_eq_some hc
    refine chunk_of_long (by omega) hlength ?_ (fun heq => by omega)
    simp only [List.take_succ_cons, List.take_zero, List.mem_cons, List.not_mem_nil, or_false,
      forall_eq_or_imp, forall_eq]
    omega
  | @three c d rest x y code low high hc hd hcode valid =>
    obtain ⟨hcx, hx⟩ := payload?_eq_some hc
    obtain ⟨hdy, hy⟩ := payload?_eq_some hd
    refine chunk_of_long (by omega) hlength ?_ (fun heq => ?_)
    · simp only [List.take_succ_cons, List.take_zero, List.mem_cons, List.not_mem_nil,
        or_false, forall_eq_or_imp, forall_eq]
      omega
    · have hb : b = 0xEF := UInt8.toNat_inj.1 (by simp; omega)
      have hc : c = 0xBB := UInt8.toNat_inj.1 (by simp; omega)
      have hd : d = 0xBF := UInt8.toNat_inj.1 (by simp; omega)
      subst hb hc hd
      rfl
  | four low high hc hd he hcode valid =>
    obtain ⟨hcx, _⟩ := payload?_eq_some hc
    obtain ⟨hdy, _⟩ := payload?_eq_some hd
    obtain ⟨hez, _⟩ := payload?_eq_some he
    refine chunk_of_long (by omega) hlength ?_ (fun heq => by omega)
    simp only [List.take_succ_cons, List.take_zero, List.mem_cons, List.not_mem_nil,
      or_false, forall_eq_or_imp, forall_eq]
    omega

theorem ofBytesAfter_eq (pass : Nat) (bytes : List UInt8) :
    ofBytesAfter pass bytes = ofBytes (bytes.drop pass) := by
  induction bytes generalizing pass with
  | nil => cases pass <;> rfl
  | cons b bytes ih =>
    cases pass with
    | zero => rfl
    | succ pass => exact ih pass

theorem high_of_front? {b : UInt8} {rest : List UInt8} (h : front? b rest = none) :
    0x80 ≤ b.toNat := by
  refine Nat.le_of_not_lt fun hlow => ?_
  rw [front?.eq_def, if_pos hlow] at h
  cases h

/-- The first glyph of a text stands for the first bytes, and the others are read from the rest. -/
theorem exists_chunk {bytes : List UInt8} {g : Glyph} {text : List Glyph}
    (h : ofBytes bytes = g :: text) :
    ∃ chunk more, bytes = chunk ++ more ∧ Chunk g chunk ∧ ofBytes more = text := by
  cases bytes with
  | nil => cases h
  | cons b rest =>
    rw [ofBytes, ofBytesAfter] at h
    cases hfront : front? b rest with
    | some read =>
      obtain ⟨code, more⟩ := read
      simp only [hfront] at h
      obtain ⟨rfl, rfl⟩ := List.cons.inj h
      exact ⟨b :: rest.take more, rest.drop more, by simp, chunk_front hfront,
        (ofBytesAfter_eq more rest).symm⟩
    | none =>
      simp only [hfront] at h
      obtain ⟨rfl, rfl⟩ := List.cons.inj h
      exact ⟨[b], rest, rfl, chunk_stray (high_of_front? hfront), rfl⟩

end Glyph

theorem Point.ofBytes_append {g : Glyph} {bytes chunk : List UInt8} (h : g.Chunk chunk) :
    Point.ofBytes (bytes ++ chunk) = (Point.ofBytes bytes).after g := by
  rw [Point.after, Point.ofBytes, Point.ofBytes, List.length_append, h.length, List.count_append,
    List.reverse_append]
  rcases h.lineFeed with ⟨rfl, rfl⟩ | ⟨hnot, hne⟩
  · simp
  · have hcount : chunk.count lineFeedByte = 0 := List.count_eq_zero.2 hnot
    have htake : ∀ b ∈ chunk.reverse, (b != lineFeedByte) = true := by
      intro b hb
      rw [bne_iff_ne]
      rintro rfl
      exact hnot (List.mem_reverse.1 hb)
    rw [if_neg hne, hcount, List.takeWhile_append_of_pos htake, List.length_append,
      List.length_reverse, h.length, Nat.add_comm g.size]
    rfl

/-- The bytes that some glyphs of a text stand for. -/
theorem Glyph.exists_bytes {bytes : List UInt8} {before rest : List Glyph}
    (h : ofBytes bytes = before ++ rest) : ∃ front more, bytes = front ++ more ∧
      ofBytes more = rest ∧ front.length = totalSize before ∧
      (∀ first, Point.ofBytes (first ++ front) = (Point.ofBytes first).behind before) ∧
      ((∀ g ∈ before, g.isBlank = true) → front.all isBlankByte = true) := by
  induction before generalizing bytes with
  | nil => exact ⟨[], bytes, rfl, h, rfl, fun first => by rw [List.append_nil]; rfl, fun _ => rfl⟩
  | cons g before ih =>
    obtain ⟨chunk, more, rfl, hchunk, hmore⟩ := exists_chunk h
    obtain ⟨front, more, rfl, hrest, hlength, hpoint, hblank⟩ := ih hmore
    refine ⟨chunk ++ front, more, (List.append_assoc ..).symm, hrest, ?_, fun first => ?_,
      fun hall => ?_⟩
    · rw [List.length_append, hlength, hchunk.length, totalSize]
    · rw [← List.append_assoc, hpoint, Point.ofBytes_append hchunk]
      rfl
    · rw [List.all_append, hchunk.blank (hall g List.mem_cons_self),
        hblank fun x hx => hall x (List.mem_cons_of_mem _ hx)]
      rfl

/-- The point behind some glyphs of a text is the point behind their bytes. -/
theorem Point.ofBytes_take {bytes : List UInt8} {before rest : List Glyph}
    (h : Glyph.ofBytes bytes = before ++ rest) :
    Point.ofBytes (bytes.take (origin.behind before).byte) = origin.behind before := by
  obtain ⟨front, more, rfl, _, hlength, hpoint, _⟩ := Glyph.exists_bytes h
  have hbyte : (origin.behind before).byte = front.length := by
    rw [Point.behind_byte, hlength]
    exact Nat.zero_add _
  rw [hbyte, List.take_left]
  exact hpoint []

end Numscript
