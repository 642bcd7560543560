import Numscript.Proofs.Comments

/-!
# Characters of programs

The bytes of a valid program are UTF-8, and none of them is zero. Where a character stands that is not of
ASCII, there is a comment or a string, or it is the byte order mark at the start.
-/
namespace Numscript

open Grammar (IsLexeme lexeme satisfies)
open Glyph (encode encodeAll IsScalar Scalars)
open Numscript.Parser (Laid IsGap Accepts)

/-- The tokens that may hold any characters. -/
def Terminal.isFree : Terminal → Bool
  | .lineComment | .multilineComment | .string => true
  | _ => false

/-- The ranges of a class without the code zero, and without all codes that are not of ASCII. -/
def Lexer.CharClass.within (cls : Lexer.CharClass) (high : Nat) : Bool :=
  cls.all fun r => 0 < r.1 && r.2 < high

theorem Lexer.CharClass.of_within {cls : Lexer.CharClass} {high code : Nat} (h : cls.within high = true)
    (covers : cls.covers code = true) : code ≠ 0 ∧ code < high := by
  obtain ⟨r, hr, hcode⟩ := List.any_eq_true.1 covers
  have hrange := List.all_eq_true.1 h r hr
  simp only [Bool.and_eq_true, decide_eq_true_eq] at hcode hrange
  omega

theorem letters_within : ∀ t ∈ Terminal.all, ∀ cls ∈ (lexeme t).letters,
    cls.within (if t.isFree then 0x110000 else 0x80) = true := by
  decide +kernel

theorem code_of_isLexeme {t : Terminal} {w : List Glyph} (h : IsLexeme t w) : ∀ g ∈ w,
    ∃ code, g = .char code ∧ code ≠ 0 ∧ (t.isFree = false → code < 0x80) := by
  intro g hg
  obtain ⟨code, rfl, cls, hcls, hcovers⟩ := Lexer.exists_char_of_isLexeme h hg
  obtain ⟨hzero, hlow⟩ := Lexer.CharClass.of_within (letters_within t t.mem_all cls hcls) hcovers
  refine ⟨code, rfl, hzero, fun hfree => ?_⟩
  simpa [hfree] using hlow

namespace Parser

/-- A glyph in a place of a text: of ASCII, or a byte order mark at the start, or inside of a free token. -/
def Allowed (tokens : List Token) (before : List Glyph) (g : Glyph) : Prop :=
  ∃ code, g = .char code ∧ code ≠ 0 ∧
    (code < 0x80 ∨ (before = [] ∧ code = 0xFEFF) ∨ ∃ t ∈ tokens, t.kind.isFree = true ∧
      t.start.byte ≤ Glyph.totalSize before ∧ Glyph.totalSize (before ++ [g]) ≤ t.stop.byte)

theorem Allowed.mono {tokens tokens' : List Token} {before : List Glyph} {g : Glyph}
    (h : Allowed tokens before g) (sub : tokens ⊆ tokens') : Allowed tokens' before g := by
  obtain ⟨code, rfl, hzero, hlow | hmark | ⟨t, ht, hin⟩⟩ := h
  · exact ⟨code, rfl, hzero, .inl hlow⟩
  · exact ⟨code, rfl, hzero, .inr (.inl hmark)⟩
  · exact ⟨code, rfl, hzero, .inr (.inr ⟨t, sub ht, hin⟩)⟩

/-- A glyph of a list lies in its first part, or in its second one. -/
theorem split_append {α : Type} {a b before behind : List α} {g : α}
    (h : a ++ b = before ++ g :: behind) : (∃ rest, a = before ++ g :: rest) ∨
      ∃ middle, before = a ++ middle ∧ b = middle ++ g :: behind := by
  rcases List.append_eq_append_iff.1 h with ⟨middle, rfl, hb⟩ | ⟨middle, rfl, hg⟩
  · exact .inr ⟨middle, rfl, hb⟩
  · cases middle with
    | nil => exact .inr ⟨[], by simp, by simpa using hg.symm⟩
    | cons c middle =>
      obtain ⟨rfl, _⟩ := List.cons.inj hg
      exact .inl ⟨middle, rfl⟩

theorem IsGap.allowed {before gap : List Glyph} (h : IsGap before gap) (tokens : List Token)
    {front behind : List Glyph} {g : Glyph} (split : gap = front ++ g :: behind) :
    Allowed tokens (before ++ front) g := by
  obtain ⟨mark, blanks, rfl, hblank, hmark⟩ := h
  have hascii : g ∈ blanks → Allowed tokens (before ++ front) g := by
    intro hg
    have hg := hblank g hg
    cases g with
    | stray => cases hg
    | char code =>
      simp only [Glyph.isBlank, Bool.or_eq_true, Bool.and_eq_true, decide_eq_true_eq] at hg
      exact ⟨code, rfl, by omega, .inl (by omega)⟩
  rcases split_append split with ⟨rest, hsplit⟩ | ⟨middle, rfl, hsplit⟩
  · rcases hmark with rfl | ⟨rfl, rfl⟩
    · simp at hsplit
    · obtain ⟨rfl, hg⟩ : front = [] ∧ .byteOrderMark = g := by
        cases front with
        | nil => exact ⟨rfl, (List.cons.inj hsplit).1⟩
        | cons => simp at hsplit
      exact ⟨0xFEFF, hg.symm, by decide, .inr (.inl ⟨rfl, rfl⟩)⟩
  · exact hascii (by simp [hsplit])

theorem Laid.allowed {text front behind : List Glyph} {g : Glyph} {tokens : List Token}
    (h : Laid text tokens) (split : text = front ++ g :: behind) : Allowed tokens front g := by
  induction h generalizing behind with
  | nil => simp at split
  | @snoc before gap word tokens token _ isGap lexeme start stop ih =>
    rcases split_append split with ⟨rest, hsplit⟩ | ⟨inner, rfl, hsplit⟩
    · rcases split_append hsplit with ⟨rest', hsplit'⟩ | ⟨middle, rfl, hsplit'⟩
      · exact (ih hsplit').mono (List.subset_append_left _ _)
      · exact isGap.allowed _ hsplit'
    · obtain ⟨code, rfl, hzero, hlow⟩ := code_of_isLexeme lexeme g (by simp [hsplit])
      refine ⟨code, rfl, hzero, ?_⟩
      cases hfree : token.kind.isFree with
      | false => exact .inl (hlow hfree)
      | true =>
        refine .inr (.inr ⟨token, by simp, hfree, ?_, ?_⟩)
        · rw [start, Point.origin_behind_byte, Glyph.totalSize_append _ inner]
          exact Nat.le_add_right ..
        · rw [stop, Point.origin_behind_byte, hsplit]
          simp only [Glyph.totalSize_append, Glyph.totalSize]
          omega

theorem Accepts.allowed {text front behind : List Glyph} {g : Glyph} {tokens : List Token} {root : Tree}
    (h : Accepts text tokens root) (split : text = front ++ g :: behind) : Allowed tokens front g := by
  obtain ⟨before, gap, rfl, hlaid, hgap⟩ := h.laid
  rcases split_append split with ⟨rest, hsplit⟩ | ⟨middle, rfl, hsplit⟩
  · exact hlaid.allowed hsplit
  · exact hgap.allowed _ hsplit

end Parser

namespace Glyph

theorem toNat_toChar {code : Nat} (h : IsScalar code) : (Glyph.char code).toChar.toNat = code := by
  have hvalid : code.isValidChar := h.imp id fun h => ⟨by omega, by omega⟩
  rw [toChar, Char.ofNat, dif_pos hvalid]
  rfl

theorem utf8EncodeChar_toChar {code : Nat} (h : IsScalar code) :
    String.utf8EncodeChar (Glyph.char code).toChar = encode (.char code) := by
  have hcode : (Glyph.char code).toChar.val.toNat = code := toNat_toChar h
  unfold IsScalar at h
  simp only [String.utf8EncodeChar, hcode, encode, encodeCode, trailing]
  split
  · rw [if_pos (by omega)]
  split
  · have hfirst : code / 64 % 0x20 + 0xc0 = 0xC0 + code / 64 := by omega
    rw [if_neg (by omega), if_pos (by omega), hfirst, Nat.add_comm (code % 0x40)]
  split
  · have hfirst : code / 4096 % 0x10 + 0xe0 = 0xE0 + code / 4096 := by omega
    rw [if_neg (by omega), if_neg (by omega), if_pos (by omega), hfirst, Nat.add_comm (code % 0x40),
      Nat.add_comm (code / 64 % 0x40)]
  · have hfirst : code / 262144 % 0x08 + 0xf0 = 0xF0 + code / 262144 := by omega
    rw [if_neg (by omega), if_neg (by omega), if_neg (by omega), hfirst, Nat.add_comm (code % 0x40),
      Nat.add_comm (code / 64 % 0x40), Nat.add_comm (code / 4096 % 0x40)]

theorem toByteArray_render {text : List Glyph} (h : Scalars text) :
    (render text).toByteArray = (encodeAll text).toByteArray := by
  rw [render, String.toByteArray_ofList, List.utf8Encode, List.flatMap_map]
  refine congrArg List.toByteArray (List.flatMap_congr fun g hg => ?_)
  obtain ⟨code, rfl, hcode⟩ := h g hg
  exact utf8EncodeChar_toChar hcode

theorem utf8ByteSize_render {text : List Glyph} (h : Scalars text) :
    (render text).utf8ByteSize = totalSize text := by
  rw [← String.size_toByteArray, toByteArray_render h, List.size_toByteArray, h.length_encodeAll]

theorem zero_mem_of_encodeAll {text : List Glyph} (h : Scalars text) (zero : 0 ∈ encodeAll text) :
    .char 0 ∈ text := by
  obtain ⟨g, hg, hzero⟩ := List.mem_flatMap.1 zero
  obtain ⟨code, rfl, hcode⟩ := h g hg
  have hpositive : ∀ n, 0 < n → n < 256 → UInt8.ofNat n ≠ 0 := fun n hn hlt heq => by
    have hnat := congrArg UInt8.toNat heq
    rw [toNat_ofNat hlt] at hnat
    exact absurd hnat (Nat.ne_of_gt hn)
  have htrailing : ∀ x, (0 : UInt8) ≠ trailing x := fun x heq =>
    hpositive (0x80 + x % 64) (by omega) (by omega) heq.symm
  by_cases hcode0 : code = 0
  · exact hcode0 ▸ hg
  · unfold IsScalar at hcode
    have hfirst : (encodeCode code).1 ≠ 0 := by
      unfold encodeCode
      split
      · exact hpositive _ (by omega) (by omega)
      split
      · exact hpositive _ (by omega) (by omega)
      split
      · exact hpositive _ (by omega) (by omega)
      · exact hpositive _ (by omega) (by omega)
    have hrest : (0 : UInt8) ∉ (encodeCode code).2 := by
      unfold encodeCode
      split <;> [skip; split] <;> [skip; skip; split] <;> simp [htrailing]
    rcases List.mem_cons.1 hzero with hzero | hzero
    · exact absurd hzero.symm hfirst
    · exact absurd hzero hrest

end Glyph

theorem Label.Shows.symbol_of_isFree {token : Token} {l : Label} (h : Label.Shows token l)
    (free : token.kind.isFree = true) :
    l.symbol ∈ [.terminal .lineComment, .terminal .multilineComment, .terminal .string] := by
  have hshows := h.symbol
  generalize l.symbol = s at hshows
  cases s with
  | nonterminal => cases hshows
  | error => cases hshows
  | terminal t =>
    obtain rfl := Symbol.terminal.inj hshows
    revert free
    generalize token.kind = t
    cases t <;> decide
  | «alias» a =>
    cases a with
    | sentLiteral => cases hshows
    | accountVar =>
      rw [← Symbol.terminal.inj hshows] at free
      cases free

/-- A text as a string: its bytes in UTF-8, and where its characters stand among the leaves. -/
structure Clean (bytes : List UInt8) (root : Node) (text : String) : Prop where
  /-- The bytes are those of the string. -/
  encodes : text.toByteArray = bytes.toByteArray
  /-- No byte is zero. -/
  noZero : 0 ∉ bytes
  /-- Outside of comments and strings every character is of ASCII, but for a byte order mark at the start. -/
  ascii : ∀ before c behind, text.toList = before ++ c :: behind →
    c.toNat < 0x80 ∨ (before = [] ∧ c = '\uFEFF') ∨
      ∃ l ∈ root.leaves,
        l.symbol ∈ [.terminal .lineComment, .terminal .multilineComment, .terminal .string] ∧
        l.start.byte ≤ (String.ofList before).utf8ByteSize ∧
        (String.ofList (before ++ [c])).utf8ByteSize ≤ l.stop.byte

/-- The text of a valid program is clean. -/
theorem clean_of_valid (bytes : List UInt8) {root : Node} (h : Program.ofBytes bytes = .valid root) :
    ∃ text, Clean bytes root text := by
  obtain ⟨tokens, tree, hparse, haccepts, hroot, hshows⟩ := exists_tokens_of_valid bytes h
  have hallowed := fun front g behind => @Accepts.allowed (Glyph.ofBytes bytes) front behind g _ _ haccepts
  have hstray : .stray ∉ Glyph.ofBytes bytes := fun hmem => by
    obtain ⟨front, behind, hsplit⟩ := List.append_of_mem hmem
    obtain ⟨_, hchar, _⟩ := hallowed _ _ _ hsplit
    cases hchar
  obtain ⟨hbytes, hscalars⟩ := Glyph.encodeAll_ofBytes hstray
  refine ⟨Glyph.render (Glyph.ofBytes bytes), ?_, ?_, ?_⟩
  · rw [Glyph.toByteArray_render hscalars, ← hbytes]
  · intro hzero
    rw [hbytes] at hzero
    obtain ⟨front, behind, hsplit⟩ := List.append_of_mem (Glyph.zero_mem_of_encodeAll hscalars hzero)
    obtain ⟨code, hchar, hpositive, _⟩ := hallowed _ _ _ hsplit
    exact hpositive (Glyph.char.inj hchar).symm
  · intro before c behind hsplit
    rw [Glyph.render, String.toList_ofList] at hsplit
    obtain ⟨front, rest, htext, rfl, hrest⟩ := List.map_eq_append_iff.1 hsplit
    obtain ⟨g, behind, rfl, rfl, rfl⟩ := List.map_eq_cons_iff.1 hrest
    obtain ⟨code, rfl, _, hcode⟩ := hallowed _ _ _ htext
    rw [htext] at hscalars
    have hfront : Scalars front := fun g hg => hscalars g (by simp [hg])
    have hgoes : Scalars (front ++ [.char code]) := fun g hg => hscalars g (by simp at hg ⊢; tauto)
    obtain ⟨_, hcode', hscalar⟩ := hscalars (.char code) (by simp)
    obtain rfl := Glyph.char.inj hcode'
    rcases hcode with hlow | ⟨rfl, rfl⟩ | ⟨t, ht, hfree, hstart, hstop⟩
    · exact .inl ((Glyph.toNat_toChar hscalar).symm ▸ hlow)
    · exact .inr (.inl ⟨rfl, rfl⟩)
    · obtain ⟨l, hl, hshow⟩ := exists_leaf_of_token hshows ht
      refine .inr (.inr ⟨l, hl, ?_, ?_, ?_⟩)
      · exact hshow.symbol_of_isFree hfree
      · rw [hshow.start]
        exact (Glyph.utf8ByteSize_render hfront).symm ▸ hstart
      · rw [hshow.stop]
        have hsize := Glyph.utf8ByteSize_render hgoes
        rw [Glyph.render, List.map_append] at hsize
        exact hsize.symm ▸ hstop

/--
A call behind a byte order mark and a comment, both the comment and its argument with a letter that is
not of ASCII.
-/
def foreignCall : List UInt8 :=
  markBytes ++ [47, 47, 195, 169, 10, 102, 40, 34, 195, 188, 34, 41]

theorem clean_foreignCall : ∃ root : Node, Program.ofBytes foreignCall = .valid root ∧
    ∃ text, Clean foreignCall root text := by
  have hvalid : (Program.ofBytes foreignCall).root?.isSome = true := by decide +kernel
  cases hprogram : Program.ofBytes foreignCall with
  | invalid furthest =>
    rw [hprogram] at hvalid
    cases hvalid
  | valid root => exact ⟨root, rfl, clean_of_valid foreignCall hprogram⟩

end Numscript
