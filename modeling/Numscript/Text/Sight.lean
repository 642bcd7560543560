import Numscript.Text.Glyph

/-!
# The sight of the reader

To tell a glyph, bytes are looked at one by one, up to the first that decides. A byte that no well-formed
sequence can hold in its place decides, so a stray byte may be known only from the bytes behind it. A place
behind the text is looked at like a byte: there the end of the text is met.
-/
namespace Numscript.Glyph

/-- Whether a byte can follow the first byte of a sequence of three or four. Whatever the payload of the
others is, the code point has to be one that only a sequence of this length can hold. -/
def opens (b c : UInt8) : Bool :=
  match payload? c with
  | none => false
  | some x =>
    if b.toNat < 0xF0 then
      let code := (b.toNat - 0xE0) * 4096 + x * 64
      0x800 ≤ code && !(0xD800 ≤ code && code < 0xE000)
    else
      let code := (b.toNat - 0xF0) * 262144 + x * 4096
      0x10000 ≤ code && code ≤ 0x10FFFF

/-- How many bytes are looked at to tell the glyph that begins with a byte. -/
def peek (b : UInt8) (rest : List UInt8) : Nat :=
  if b.toNat < 0xC2 ∨ 0xF5 ≤ b.toNat then 1
  else if b.toNat < 0xE0 then 2
  else
    match rest with
    | [] => 2
    | c :: rest =>
      if !opens b c then 2
      else if b.toNat < 0xF0 then 3
      else
        match rest with
        | [] => 3
        | d :: _ => if (payload? d).isNone then 3 else 4

/-- How many bytes are looked at to tell the first `count` glyphs of a text. It is more than there are if the
end of the text is met. -/
def sight : (count : Nat) → List UInt8 → Nat
  | 0, _ => 0
  | _ + 1, [] => 1
  | count + 1, b :: rest =>
    let more := ((front? b rest).map (·.2)).getD 0
    max (peek b rest) (1 + more + sight count (rest.drop more))

end Numscript.Glyph
