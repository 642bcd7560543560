import Numscript.Proofs.Parser.Spread
import Numscript.Proofs.Stretch
import Numscript.Proofs.Text.Encode

/-!
# Layout

The gaps between the leaves of a valid program can be replaced by any white space that begins with a line
feed. The new text is a valid program as well, and its tree differs from the first one in nothing but the
places of the nodes.
-/
namespace Numscript

open Numscript.Parser (Spread Reads Accepts)

/-- The bytes of a node. -/
def Label.slice (bytes : List UInt8) (l : Label) : List UInt8 :=
  (bytes.take l.stop.byte).drop l.start.byte

/-- White space, as bytes, that begins with a line feed. -/
def IsBreak (gap : List UInt8) : Prop :=
  gap.head? = some lineFeedByte ∧ gap.all isBlankByte = true

/-- Some leaves of a text laid out again, with breaks before, between and behind them. -/
inductive Relaid (bytes : List UInt8) : List Label → List UInt8 → Prop
  | nil {gap : List UInt8} (isBreak : IsBreak gap) : Relaid bytes [] gap
  | cons {gap rest : List UInt8} {l : Label} {leaves : List Label} (isBreak : IsBreak gap)
      (behind : Relaid bytes leaves rest) :
      Relaid bytes (l :: leaves) (gap ++ (l.slice bytes ++ rest))

/-- Trees that differ in nothing but the places of their nodes. -/
structure SameButPlaces (bytes bytes' : List UInt8) (root root' : Node) : Prop where
  /-- The shapes, the kinds of the nodes, their fields, and the texts of the leaves are the same. -/
  form : root'.form (Glyph.ofBytes bytes') = root.form (Glyph.ofBytes bytes)
  /-- The same nodes are comments. -/
  extras : Node.extras [root'] = Node.extras [root]
  /-- The bytes of the leaves are the same. -/
  slices : root'.leaves.map (·.slice bytes') = root.leaves.map (·.slice bytes)

namespace Glyph

theorem ofBytes_blank {gap : List UInt8} (h : gap.all isBlankByte = true) (rest : List UInt8) :
    ofBytes (gap ++ rest) = gap.map (fun b => .char b.toNat) ++ ofBytes rest := by
  induction gap with
  | nil => rfl
  | cons b gap ih =>
    rw [List.all_cons, Bool.and_eq_true] at h
    have hlow : b.toNat < 0x80 := by
      have hb := h.1
      simp only [isBlankByte, Bool.or_eq_true, Bool.and_eq_true, decide_eq_true_eq] at hb
      omega
    have hfront : front? b (gap ++ rest) = some (b.toNat, 0) := by
      rw [front?.eq_def, if_pos hlow]
    rw [List.cons_append, ofBytes, ofBytesAfter, hfront]
    simp only [ofBytesAfter_eq, List.drop_zero]
    rw [ih h.2]
    rfl

end Glyph

theorem IsBreak.glyphs {gap : List UInt8} (h : IsBreak gap) :
    Glyph.IsBreak (gap.map fun b => .char b.toNat) := by
  refine ⟨?_, fun g hg => ?_⟩
  · rw [List.head?_map, h.1]
    rfl
  · obtain ⟨b, hb, rfl⟩ := List.mem_map.1 hg
    exact List.all_eq_true.1 h.2 b hb

theorem stray_not_mem {t : Terminal} {w : List Glyph} (h : Grammar.IsLexeme t w) : .stray ∉ w := by
  intro hmem
  obtain ⟨c, _, hc⟩ := Regular.exists_letter h hmem
  cases hc

/-- The bytes of a token are those of its word, which is read back from them. -/
theorem Token.Spans.slice {bytes : List UInt8} {t : Token} (h : t.Spans (Glyph.ofBytes bytes)) :
    (bytes.take t.stop.byte).drop t.start.byte = Glyph.encodeAll (t.word (Glyph.ofBytes bytes)) ∧
      ∀ rest, Glyph.ofBytes (Glyph.encodeAll (t.word (Glyph.ofBytes bytes)) ++ rest) =
        t.word (Glyph.ofBytes bytes) ++ Glyph.ofBytes rest := by
  obtain ⟨before, word, after, split, lexeme, start, stop⟩ := h
  have hword : t.word (Glyph.ofBytes bytes) = word := by
    rw [Token.word, start, stop, Point.origin_behind_byte, Point.origin_behind_byte, split]
    exact Glyph.between_word before word after
  rw [hword, start, stop, Point.origin_behind_byte, Point.origin_behind_byte]
  obtain ⟨front, more, rfl, hmore, hfront, _, _⟩ :=
    Glyph.exists_bytes (split.trans (List.append_assoc ..))
  obtain ⟨⟨last, rfl, hlast⟩, hplain⟩ := Glyph.exists_encodeAll hmore (stray_not_mem lexeme)
  refine ⟨?_, fun rest => Glyph.ofBytes_encodeAll hplain rest⟩
  have hlength : (Glyph.encodeAll word).length = Glyph.totalSize word := by
    have hsize := congrArg Glyph.totalSize hmore
    rw [Glyph.totalSize_ofBytes, Glyph.totalSize_append, ← hlast, Glyph.totalSize_ofBytes,
      List.length_append] at hsize
    omega
  rw [Glyph.totalSize_append, ← hfront, ← hlength, ← List.length_append, ← List.append_assoc,
    List.take_left, List.drop_left]

/-- Leaves laid out again are read as the words of their tokens, spread behind breaks. -/
theorem Relaid.spread {bytes bytes' : List UInt8} {labels : List Label} {tokens first : List Token}
    {front : List Glyph} (h : Relaid bytes labels bytes')
    (shows : List.Forall₂ Label.Shows tokens labels)
    (spans : ∀ t ∈ tokens, t.Spans (Glyph.ofBytes bytes))
    (hfront : Spread (Glyph.ofBytes bytes) first front) :
    ∃ front' gap, front ++ Glyph.ofBytes bytes' = front' ++ gap ∧ Glyph.IsBreak gap ∧
      Spread (Glyph.ofBytes bytes) (first ++ tokens) front' := by
  induction h generalizing tokens first front with
  | @nil gap isBreak =>
    cases shows
    refine ⟨front, _, ?_, isBreak.glyphs, by rwa [List.append_nil]⟩
    have hgap := Glyph.ofBytes_blank isBreak.2 []
    have hnil : Glyph.ofBytes [] = [] := rfl
    rw [List.append_nil, hnil, List.append_nil] at hgap
    rw [hgap]
  | @cons gap rest l leaves isBreak _ ih =>
    cases shows with
    | @cons t _ tokens _ hshows hrest =>
      rw [List.forall_mem_cons] at spans
      obtain ⟨hslice, hread⟩ := spans.1.slice
      obtain ⟨front', last, hsplit, hlast, hspread⟩ :=
        ih hrest spans.2 (.snoc hfront isBreak.glyphs)
      refine ⟨front', last, ?_, hlast, by simpa using hspread⟩
      have hl : l.slice bytes = Glyph.encodeAll (t.word (Glyph.ofBytes bytes)) := by
        rw [Label.slice, hshows.start, hshows.stop, hslice]
      rw [hl, Glyph.ofBytes_blank isBreak.2, hread, ← hsplit]
      simp

/-- Leaves that show tokens have their bytes. -/
theorem slices_of_shows {bytes : List UInt8} {tokens : List Token} {labels : List Label}
    (shows : List.Forall₂ Label.Shows tokens labels)
    (spans : ∀ t ∈ tokens, t.Spans (Glyph.ofBytes bytes)) :
    labels.map (·.slice bytes) =
      (tokens.map (·.word (Glyph.ofBytes bytes))).map Glyph.encodeAll := by
  induction shows with
  | nil => rfl
  | cons hshows _ ih =>
    rw [List.forall_mem_cons] at spans
    rw [List.map_cons, List.map_cons, List.map_cons, ih spans.2, Label.slice, hshows.start, hshows.stop,
      spans.1.slice.1]

theorem words_of_copies {text text' : List Glyph} {tokens tokens' : List Token}
    (h : List.Forall₂ (Token.Copies text text') tokens tokens') :
    tokens'.map (·.word text') = tokens.map (·.word text) := by
  induction h with
  | nil => rfl
  | cons head _ ih => exact congrArg₂ List.cons head.word ih

/-- A program with other gaps between its leaves is a program, and its tree differs only in places. -/
theorem relayout_of_valid (bytes bytes' : List UInt8) {root : Node}
    (h : Program.ofBytes bytes = .valid root) (relaid : Relaid bytes root.leaves bytes') :
    ∃ root', Program.ofBytes bytes' = .valid root' ∧ SameButPlaces bytes bytes' root root' := by
  obtain ⟨tokens, tree, hparse, haccepts, hroot, hshows⟩ := exists_tokens_of_valid bytes h
  obtain ⟨front, gap, hsplit, hgap, hspread⟩ := relaid.spread hshows haccepts.spans .nil
  rw [List.nil_append] at hsplit hspread
  obtain ⟨tree', hparse', hcopy⟩ := Parser.parse_spread hparse haccepts hspread hgap
  rw [← hsplit] at hparse' hcopy
  have hvalid : Program.ofBytes bytes' = .valid (tree'.program (Point.ofBytes bytes')) := by
    rw [Program.ofBytes, Program.ofGlyphs, hparse', behind_ofBytes]
  obtain ⟨tokens', _, hparse'', haccepts', _, hshows'⟩ := exists_tokens_of_valid bytes' hvalid
  obtain rfl := Parser.Result.valid.inj (hparse'.symm.trans hparse'')
  refine ⟨_, hvalid, ?_, ?_, ?_⟩
  · rw [hroot]
    exact hcopy.form_program _ _
  · rw [hroot]
    exact hcopy.extras_program _ _
  · rw [slices_of_shows hshows haccepts.spans, slices_of_shows hshows' haccepts'.spans,
      ← haccepts.tokens_eq, ← haccepts'.tokens_eq, words_of_copies hcopy.tokens]

/-- Some words, each on a line of its own. -/
def onLines : List (List UInt8) → List UInt8
  | [] => [lineFeedByte]
  | word :: rest => [lineFeedByte] ++ (word ++ onLines rest)

theorem relaid_onLines (bytes : List UInt8) (labels : List Label) :
    Relaid bytes labels (onLines (labels.map (·.slice bytes))) := by
  have hbreak : IsBreak [lineFeedByte] := ⟨rfl, rfl⟩
  induction labels with
  | nil => exact .nil hbreak
  | cons l labels ih => exact .cons hbreak ih

/-- The call of `markedCall` without the mark, and with its tokens on lines of their own. -/
def callOnLines : List UInt8 := [10, 102, 10, 40, 10, 47, 42, 42, 47, 10, 36, 97, 10, 41, 10]

theorem relayout_call : ∃ root root', Program.ofBytes markedCall = .valid root ∧
    Relaid markedCall root.leaves callOnLines ∧ Program.ofBytes callOnLines = .valid root' ∧
    SameButPlaces markedCall callOnLines root root' := by
  have hslices : (Program.ofBytes markedCall).root?.map (fun root =>
      onLines (root.leaves.map (·.slice markedCall))) = some callOnLines := by
    decide +kernel
  cases hprogram : Program.ofBytes markedCall with
  | invalid furthest =>
    rw [hprogram] at hslices
    cases hslices
  | valid root =>
    rw [hprogram] at hslices
    have hrelaid : Relaid markedCall root.leaves callOnLines :=
      Option.some.inj hslices ▸ relaid_onLines markedCall root.leaves
    obtain ⟨root', hvalid, hsame⟩ := relayout_of_valid markedCall callOnLines hprogram hrelaid
    exact ⟨root, root', rfl, hrelaid, hvalid, hsame⟩

end Numscript
