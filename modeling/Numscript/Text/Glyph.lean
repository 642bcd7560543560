/-!
# Glyphs

A text is read as a list of glyphs. A glyph is a code point, or a single byte that belongs to no
well-formed UTF-8 sequence. Reading never fails: every byte list has exactly one glyph list, and
the sizes of the glyphs add up to the number of bytes.
-/
namespace Numscript

/-- One unit of a text: a code point, or a byte that no well-formed sequence contains. -/
inductive Glyph where
  | char (code : Nat)
  | stray
  deriving DecidableEq, Repr

namespace Glyph

/-- The number of bytes a glyph takes. -/
def size : Glyph → Nat
  | .char code =>
    if code < 0x80 then 1 else if code < 0x800 then 2 else if code < 0x10000 then 3 else 4
  | .stray => 1

/-- The byte order mark, which is passed over at the very start of a text. -/
def byteOrderMark : Glyph := .char 0xFEFF

/-- A line feed is the only glyph that starts a new row. -/
def lineFeed : Glyph := .char 0x0A

/-- White space between tokens: the controls from tab to carriage return, and the space. -/
def isBlank : Glyph → Bool
  | .char code => (9 ≤ code && code ≤ 13) || code = 32
  | .stray => false

/-- The character a glyph shows as; a stray byte shows as the replacement character. -/
def toChar : Glyph → Char
  | .char code => Char.ofNat code
  | .stray => '\uFFFD'

/-- A continuation byte has the form `10xxxxxx`; its six low bits are its payload. -/
def payload? (b : UInt8) : Option Nat :=
  if 0x80 ≤ b.toNat ∧ b.toNat < 0xC0 then some (b.toNat - 0x80) else none

theorem payload_lt {b : UInt8} {x : Nat} (h : payload? b = some x) : x < 64 := by
  unfold payload? at h
  split at h
  · simp only [Option.some.injEq] at h
    omega
  · simp at h

/--
The code point at the front of a byte list and the number of bytes that follow the first one in
its sequence. Only shortest forms count, surrogates and codes above `0x10FFFF` do not.
-/
def front? (b : UInt8) (rest : List UInt8) : Option (Nat × Nat) :=
  if b.toNat < 0x80 then some (b.toNat, 0)
  else if b.toNat < 0xC2 then none
  else if b.toNat < 0xE0 then
    match rest with
    | c :: _ => (payload? c).map fun x => ((b.toNat - 0xC0) * 64 + x, 1)
    | [] => none
  else if b.toNat < 0xF0 then
    match rest with
    | c :: d :: _ => do
        let code := (b.toNat - 0xE0) * 4096 + (← payload? c) * 64 + (← payload? d)
        if code < 0x800 ∨ (0xD800 ≤ code ∧ code < 0xE000) then none else some (code, 2)
    | _ => none
  else if b.toNat < 0xF5 then
    match rest with
    | c :: d :: e :: _ => do
        let code := (b.toNat - 0xF0) * 262144 + (← payload? c) * 4096 + (← payload? d) * 64
          + (← payload? e)
        if code < 0x10000 ∨ 0x10FFFF < code then none else some (code, 3)
    | _ => none
  else none

/-- Reads the bytes after the next `pass`, which belong to a sequence already read. -/
def ofBytesAfter : (pass : Nat) → List UInt8 → List Glyph
  | _, [] => []
  | pass + 1, _ :: rest => ofBytesAfter pass rest
  | 0, b :: rest =>
    match front? b rest with
    | some (code, more) => .char code :: ofBytesAfter more rest
    | none => .stray :: ofBytesAfter 0 rest

/-- The glyphs of a byte list. A byte that starts no well-formed sequence is a stray of its own. -/
def ofBytes (bytes : List UInt8) : List Glyph := ofBytesAfter 0 bytes

/-- The number of bytes that a list of glyphs takes. -/
def totalSize : List Glyph → Nat
  | [] => 0
  | g :: rest => g.size + totalSize rest

theorem size_two {code : Nat} (low : 0x80 ≤ code) (high : code < 0x800) : (char code).size = 2 := by
  simp [size, Nat.not_lt.2 low, high]

theorem size_three {code : Nat} (low : 0x800 ≤ code) (high : code < 0x10000) :
    (char code).size = 3 := by
  have hlow : ¬code < 0x80 := by omega
  simp [size, hlow, Nat.not_lt.2 low, high]

theorem size_four {code : Nat} (low : 0x10000 ≤ code) : (char code).size = 4 := by
  have hlow : ¬code < 0x80 := by omega
  have hmiddle : ¬code < 0x800 := by omega
  simp [size, hlow, hmiddle, Nat.not_lt.2 low]

/-- A sequence that is read takes as many bytes as its code point is long, all of them there. -/
theorem size_front {b : UInt8} {rest : List UInt8} {code more : Nat}
    (h : front? b rest = some (code, more)) :
    (Glyph.char code).size = more + 1 ∧ more ≤ rest.length := by
  unfold front? at h
  split at h
  · next hb =>
    simp only [Option.some.injEq, Prod.mk.injEq] at h
    obtain ⟨rfl, rfl⟩ := h
    simp [size, hb]
  split at h
  · simp at h
  split at h
  · next hlow hhigh =>
    split at h
    · next c _ =>
      obtain ⟨x, hc, heq⟩ := Option.map_eq_some_iff.1 h
      obtain ⟨rfl, rfl⟩ := Prod.mk.inj heq
      have hx := payload_lt hc
      exact ⟨size_two (by omega) (by omega), by simp⟩
    · simp at h
  split at h
  · next hlow hhigh =>
    split at h
    · next c d _ =>
      obtain ⟨x, hc, h⟩ := Option.bind_eq_some_iff.1 h
      obtain ⟨y, hd, h⟩ := Option.bind_eq_some_iff.1 h
      have hx := payload_lt hc
      have hy := payload_lt hd
      dsimp only at h
      split at h
      · simp at h
      · next hcode =>
        obtain ⟨rfl, rfl⟩ := Prod.mk.inj (Option.some.inj h)
        exact ⟨size_three (by omega) (by omega), by simp⟩
    · simp at h
  split at h
  · next hlow hhigh =>
    split at h
    · next c d e _ =>
      obtain ⟨x, hc, h⟩ := Option.bind_eq_some_iff.1 h
      obtain ⟨y, hd, h⟩ := Option.bind_eq_some_iff.1 h
      obtain ⟨z, he, h⟩ := Option.bind_eq_some_iff.1 h
      dsimp only at h
      split at h
      · simp at h
      · next hcode =>
        obtain ⟨rfl, rfl⟩ := Prod.mk.inj (Option.some.inj h)
        exact ⟨size_four (by omega), by simp⟩
    · simp at h
  · simp at h

theorem totalSize_ofBytesAfter (pass : Nat) (bytes : List UInt8) :
    totalSize (ofBytesAfter pass bytes) = bytes.length - pass := by
  induction bytes generalizing pass with
  | nil => simp [ofBytesAfter, totalSize]
  | cons b rest ih =>
    cases pass with
    | succ pass => simp [ofBytesAfter, ih]
    | zero =>
      unfold ofBytesAfter
      split
      · next code more h =>
        have hs := size_front h
        simp only [totalSize, hs.1, ih, List.length_cons]
        omega
      · simp only [totalSize, size, ih, List.length_cons]
        omega

/-- No byte is lost in reading: the sizes of the glyphs add up to the number of bytes. -/
theorem totalSize_ofBytes (bytes : List UInt8) : totalSize (ofBytes bytes) = bytes.length :=
  totalSize_ofBytesAfter 0 bytes

/-- The text a list of glyphs shows as. -/
def render (text : List Glyph) : String := String.ofList (text.map toChar)

end Glyph
end Numscript
