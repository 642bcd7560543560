import Numscript.Proofs.Text.Bytes

/-!
# Glyphs as bytes

The bytes of a code point. Reading them gives the code point back, whatever follows, and what is read as a
code point are its bytes. So a piece of a text that holds no stray bytes can be moved to another place.
-/
namespace Numscript.Glyph

/-- The code points that have bytes: all but the surrogates. -/
def IsScalar (code : Nat) : Prop := code < 0xD800 ∨ 0xE000 ≤ code ∧ code ≤ 0x10FFFF

/-- A byte behind the first one of a sequence. -/
def trailing (x : Nat) : UInt8 := UInt8.ofNat (0x80 + x % 64)

/-- The first byte of a code point, and those behind it. -/
def encodeCode (code : Nat) : UInt8 × List UInt8 :=
  if code < 0x80 then (UInt8.ofNat code, [])
  else if code < 0x800 then (UInt8.ofNat (0xC0 + code / 64), [trailing code])
  else if code < 0x10000 then
    (UInt8.ofNat (0xE0 + code / 4096), [trailing (code / 64), trailing code])
  else (UInt8.ofNat (0xF0 + code / 262144),
    [trailing (code / 4096), trailing (code / 64), trailing code])

/-- The bytes of a glyph. A stray byte is not kept. -/
def encode : Glyph → List UInt8
  | .char code => (encodeCode code).1 :: (encodeCode code).2
  | .stray => []

/-- The bytes of a text. -/
def encodeAll (text : List Glyph) : List UInt8 := text.flatMap encode

theorem toNat_ofNat {n : Nat} (h : n < 256) : (UInt8.ofNat n).toNat = n :=
  (UInt8.toNat_ofNat' ..).trans (Nat.mod_eq_of_lt h)

theorem ofNat_eq {b : UInt8} {n : Nat} (h : n = b.toNat) : UInt8.ofNat n = b := by
  rw [h, UInt8.ofNat_toNat]

theorem payload?_trailing (x : Nat) : payload? (trailing x) = some (x % 64) := by
  have hlt : x % 64 < 64 := Nat.mod_lt _ (by decide)
  rw [payload?, trailing, toNat_ofNat (by omega), if_pos (by omega)]
  simp

theorem eq_trailing {b : UInt8} {x y : Nat} (h : payload? b = some x) (hy : y % 64 = x) :
    trailing y = b :=
  ofNat_eq (by rw [hy, (payload?_eq_some h).1])

theorem sequence_encodeCode {code : Nat} (h : IsScalar code) (rest : List UInt8) :
    Sequence (encodeCode code).1 ((encodeCode code).2 ++ rest) code (encodeCode code).2.length := by
  unfold IsScalar at h
  unfold encodeCode
  split
  · next hlow =>
    have hone : Sequence (UInt8.ofNat code) rest (UInt8.ofNat code).toNat 0 :=
      .one (by rw [toNat_ofNat (by omega)]; exact hlow)
    rwa [toNat_ofNat (by omega)] at hone
  split
  · next h1 h2 =>
    have hfirst : (UInt8.ofNat (0xC0 + code / 64)).toNat = 0xC0 + code / 64 := toNat_ofNat (by omega)
    have htwo := @Sequence.two (UInt8.ofNat (0xC0 + code / 64)) _ rest _ (by omega) (by omega)
      (payload?_trailing code)
    have hcode : (UInt8.ofNat (0xC0 + code / 64)).toNat - 0xC0 = code / 64 := by omega
    rw [hcode, Nat.div_add_mod'] at htwo
    exact htwo
  split
  · next h1 h2 h3 =>
    have hfirst : (UInt8.ofNat (0xE0 + code / 4096)).toNat = 0xE0 + code / 4096 :=
      toNat_ofNat (by omega)
    exact @Sequence.three (UInt8.ofNat (0xE0 + code / 4096)) _ _ rest _ _ code (by omega) (by omega)
      (payload?_trailing (code / 64)) (payload?_trailing code) (by omega) (by omega)
  · next h1 h2 h3 =>
    have hfirst : (UInt8.ofNat (0xF0 + code / 262144)).toNat = 0xF0 + code / 262144 :=
      toNat_ofNat (by omega)
    exact @Sequence.four (UInt8.ofNat (0xF0 + code / 262144)) _ _ _ rest _ _ _ code (by omega)
      (by omega) (payload?_trailing (code / 4096)) (payload?_trailing (code / 64))
      (payload?_trailing code) (by omega) (by omega)

theorem Sequence.encodeCode_eq {b : UInt8} {rest : List UInt8} {code more : Nat}
    (h : Sequence b rest code more) : encodeCode code = (b, rest.take more) := by
  cases h with
  | one high => simp [encodeCode, high]
  | two low high hc =>
    have hx := payload_lt hc
    rw [encodeCode, if_neg (by omega), if_pos (by omega), eq_trailing hc (by omega),
      @ofNat_eq b _ (by omega)]
    rfl
  | three low high hc hd hcode valid =>
    have hx := payload_lt hc
    have hy := payload_lt hd
    rw [encodeCode, if_neg (by omega), if_neg (by omega), if_pos (by omega),
      eq_trailing hc (by omega), eq_trailing hd (by omega), @ofNat_eq b _ (by omega)]
    rfl
  | four low high hc hd he hcode valid =>
    have hx := payload_lt hc
    have hy := payload_lt hd
    have hz := payload_lt he
    rw [encodeCode, if_neg (by omega), if_neg (by omega), if_neg (by omega),
      eq_trailing hc (by omega), eq_trailing hd (by omega), eq_trailing he (by omega),
      @ofNat_eq b _ (by omega)]
    rfl

theorem Sequence.isScalar {b : UInt8} {rest : List UInt8} {code more : Nat}
    (h : Sequence b rest code more) : IsScalar code := by
  unfold IsScalar
  cases h with
  | one high => omega
  | two low high hc =>
    have hx := payload_lt hc
    omega
  | three low high hc hd hcode valid =>
    have hx := payload_lt hc
    have hy := payload_lt hd
    omega
  | four => omega

theorem ofBytes_encodeAll {text : List Glyph} (h : ∀ g ∈ text, ∃ code, g = .char code ∧ IsScalar code)
    (rest : List UInt8) : ofBytes (encodeAll text ++ rest) = text ++ ofBytes rest := by
  induction text with
  | nil => rfl
  | cons g text ih =>
    obtain ⟨code, rfl, hcode⟩ := h g List.mem_cons_self
    have hbytes : encodeAll (.char code :: text) ++ rest =
        (encodeCode code).1 :: ((encodeCode code).2 ++ (encodeAll text ++ rest)) := by
      simp [encodeAll, encode]
    rw [hbytes, ofBytes, ofBytesAfter, (sequence_encodeCode hcode _).front?]
    simp only [List.cons_append, ofBytesAfter_eq, List.drop_left]
    rw [ih fun g hg => h g (List.mem_cons_of_mem _ hg)]

/-- The bytes that a piece of a text without strays was read from. -/
theorem exists_encodeAll {bytes : List UInt8} {before rest : List Glyph}
    (h : ofBytes bytes = before ++ rest) (plain : .stray ∉ before) :
    (∃ more, bytes = encodeAll before ++ more ∧ ofBytes more = rest) ∧
      ∀ g ∈ before, ∃ code, g = .char code ∧ IsScalar code := by
  induction before generalizing bytes with
  | nil => exact ⟨⟨bytes, rfl, h⟩, nofun⟩
  | cons g before ih =>
    rw [List.mem_cons, not_or] at plain
    cases bytes with
    | nil => cases h
    | cons b bytes =>
      rw [ofBytes, ofBytesAfter] at h
      cases hfront : front? b bytes with
      | none =>
        simp only [hfront, List.cons_append] at h
        exact absurd (List.cons.inj h).1 plain.1
      | some read =>
        obtain ⟨code, count⟩ := read
        simp only [hfront, List.cons_append] at h
        obtain ⟨rfl, hrest⟩ := List.cons.inj h
        rw [ofBytesAfter_eq] at hrest
        obtain ⟨⟨more, hmore, htext⟩, hall⟩ := ih hrest plain.2
        have hsequence := sequence_of_front? hfront
        have hbytes := hsequence.encodeCode_eq
        refine ⟨⟨more, ?_, htext⟩, ?_⟩
        · have hsplit : bytes = bytes.take count ++ (encodeAll before ++ more) := by
            rw [← hmore, List.take_append_drop]
          have hencode : encodeAll (.char code :: before) =
              b :: bytes.take count ++ encodeAll before := by
            simp [encodeAll, encode, hbytes]
          rw [hencode, List.cons_append, List.cons_append, List.append_assoc, ← hsplit]
        · rw [List.forall_mem_cons]
          exact ⟨⟨code, rfl, hsequence.isScalar⟩, hall⟩

end Numscript.Glyph
