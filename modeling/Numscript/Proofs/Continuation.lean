import Numscript.Proofs.Parser.Furthest
import Numscript.Proofs.Parser.Remainder
import Numscript.Proofs.Parser.Trail
import Numscript.Proofs.Printing

/-!
# Programs that begin like a text

No token is pushed that cannot be continued to a program. What a run has read of a text, a line feed and a
few more lines are a program that begins with the tokens and comments of the run. The lines hold the tokens
that complete the stack, one on each line, as shortly spelled as they can be. So where a text is no program,
the place of the error is the furthest one up to which the text is the beginning of a program.
-/
namespace Numscript

open Automaton (mode?)
open Glyph (encodeAll Scalars)
open Grammar (lexeme satisfies spelling? spellsKeyword)
open Numscript.Parser (Reads Accepts Reaches IsGap)

namespace Terminal

/-- A spelling of a token. -/
def specimen : Terminal → String
  | .variableName => "$a"
  | .identifier => "a"
  | .number => "1"
  | .asset => "A"
  | .percentagePortion => "1%"
  | .string => "\"\""
  | .accountText => "a"
  | t => (spelling? t).getD t.name

/-- The spelling of a token as a word of a text. -/
def specimenWord (t : Terminal) : Word := ⟨t, t.specimen.toList.map fun c => .char c.toNat⟩

theorem stands_specimen {t : Terminal} (plain : t.isComment = false) (h : t ≠ .endOfText) :
    t.specimenWord.Stands ∧ Scalars t.specimenWord.text := by
  have hall : ∀ t ∈ Terminal.all, t.isComment = false → t ≠ .endOfText →
      (lexeme t).accepts satisfies t.specimenWord.text = true ∧
      (t = .identifier → spellsKeyword t.specimenWord.text = false) ∧
      t.specimenWord.text.all Glyph.isLow = true := by
    decide +kernel
  obtain ⟨hlexeme, hfree, hlow⟩ := hall t (Terminal.mem_all t) plain h
  exact ⟨⟨plain, Regular.accepts_iff.1 hlexeme, hfree⟩, .of_isLow hlow⟩

end Terminal

theorem Form.scalars_lines {words : List Word} (h : ∀ w ∈ words, Scalars w.text) : Scalars (lines words) := by
  induction words with
  | nil => exact List.forall_mem_nil _
  | cons w words ih =>
    rw [List.forall_mem_cons] at h
    obtain ⟨gap, hblank, _, hlines⟩ := exists_lines_cons w words
    rw [hlines]
    exact h.1.append ((Glyph.scalars_of_blank hblank).append (ih h.2))

namespace Parser

theorem Laid.point_eq {before : List Glyph} {tokens : List Token} (h : Laid before tokens) :
    Point.origin.behind before = (tokens.getLast?.map (·.stop)).getD .origin := by
  cases h with
  | nil => rfl
  | snoc _ _ _ _ stop => rw [List.getLast?_concat, Option.map_some, Option.getD_some, stop]

/-- A run goes on to a program behind a line feed, whatever follows in its own text. -/
theorem Reads.exists_accepts {text before rest : List Glyph} {tokens : List Token} {r : Reading}
    (h : Reads text tokens r) (split : text = before ++ rest) (place : r.point = Point.origin.behind before) :
    ∃ (more : List Glyph) (behind : List Token) (root : Tree), Scalars more ∧
      Accepts (before ++ .lineFeed :: more) (tokens ++ behind) root := by
  obtain ⟨kinds, hkinds, hconsumes⟩ := h.viable.exists_kinds
  have hstands : ∀ w ∈ kinds.map Terminal.specimenWord, w.Stands ∧ Scalars w.text := by
    rintro w hw
    obtain ⟨k, hk, rfl⟩ := List.mem_map.1 hw
    exact Terminal.stands_specimen (hkinds k hk).1 (hkinds k hk).2
  have hgap : IsGap before [.lineFeed] := ⟨[], [.lineFeed], rfl, by decide, .inl rfl⟩
  obtain ⟨ahead, stop, hstop, hahead, his⟩ :=
    Form.exists_ahead (fun w hw => (hstands w hw).1) hgap rfl
  have hsame : ahead.map (·.kind) = kinds := by
    have heq : List.Forall₂ (· = ·) (ahead.map (·.kind)) ((kinds.map Terminal.specimenWord).map (·.kind)) := by
      rw [List.forall₂_map_left_iff, List.forall₂_map_right_iff]
      exact his.imp fun _ _ h => h.kind
    rw [List.forall₂_eq_eq_eq] at heq
    rw [heq, List.map_map]
    exact List.map_id kinds
  obtain ⟨root, hroot⟩ := hconsumes ahead stop hsame hstop
  have hreads := h.parted split place
    (Lexer.parts_lineFeed rest (Form.lines (kinds.map Terminal.specimenWord))) fun _ => by
      rw [List.head?_cons]
      decide
  obtain ⟨behind, haccepts⟩ := hreads.accepts_of_ahead rfl place hahead hroot
  exact ⟨_, behind, root, Form.scalars_lines fun w hw => (hstands w hw).2, haccepts⟩

end Parser

/--
What a run has read of a text is the beginning of a program: with a line feed and other bytes behind it, it
is a program, and the first leaves show the tokens and comments of the run. The run stands at the beginning
of the text or behind the last one of these.
-/
structure Begins (bytes : List UInt8) (tokens : List Token) (p : Point) : Prop where
  place : p = (tokens.getLast?.map (·.stop)).getD .origin
  program : ∃ (more : List UInt8) (root : Node) (front behind : List Label),
    Program.ofBytes (bytes.take p.byte ++ lineFeedByte :: more) = .valid root ∧
    root.leaves = front ++ behind ∧ List.Forall₂ Label.Shows tokens front

theorem Parser.Reads.begins {bytes : List UInt8} {tokens : List Token} {r : Parser.Reading}
    (h : Reads (Glyph.ofBytes bytes) tokens r) : Begins bytes tokens r.point := by
  obtain ⟨before, rest, split, place, laid⟩ := h.laid
  obtain ⟨more, behind, tree, hmore, haccepts⟩ := h.exists_accepts split place
  obtain ⟨⟨tail, hbytes, _⟩, hbefore⟩ := Glyph.exists_encodeAll split laid.stray_not_mem
  have hfront : bytes.take r.point.byte = encodeAll before := by
    rw [place, Point.origin_behind_byte, ← Scalars.length_encodeAll hbefore, hbytes, List.take_left]
  have htext : Glyph.ofBytes (encodeAll before ++ lineFeedByte :: encodeAll more) = before ++ .lineFeed :: more := by
    have hscalars : Scalars (before ++ .lineFeed :: more) :=
      .append hbefore (.append (@Glyph.scalars_of_blank [.lineFeed] (by decide)) hmore)
    rw [← Glyph.ofBytes_encodeAll_self hscalars, Glyph.encodeAll_append, Glyph.encodeAll_cons]
    rfl
  rw [← htext] at haccepts
  obtain ⟨tree', hparse⟩ := Parser.parse_of_recognises haccepts.recognises
  obtain ⟨root, hroot⟩ : ∃ root, Program.ofBytes (encodeAll before ++ lineFeedByte :: encodeAll more) =
      .valid root := ⟨_, Program.ofGlyphs_eq_valid.2 ⟨tree', hparse, rfl⟩⟩
  obtain ⟨all, _, _, haccepts', _, hshows⟩ := exists_tokens_of_valid _ hroot
  -- all runs that accept a text have pushed the same tokens
  have hall : all = tokens ++ behind := by
    rw [← haccepts'.tokens_eq, ← haccepts.tokens_eq]
    exact (haccepts'.kin haccepts).tokens_eq
  rw [hall] at hshows
  refine ⟨place.trans laid.point_eq, encodeAll more, root, root.leaves.take tokens.length,
    root.leaves.drop tokens.length, by rw [hfront, hroot], (List.take_append_drop ..).symm, ?_⟩
  simpa using List.forall₂_take tokens.length hshows

/--
Where a text is no program, the place of the error is one that some run has come to, and no run gets past it.
What any run has read of the text, one that has come to this place included, is the beginning of a program.
-/
theorem begins_of_invalid (bytes : List UInt8) {furthest : Point}
    (h : Program.ofBytes bytes = .invalid furthest) :
    (∃ tokens r, Reads (Glyph.ofBytes bytes) tokens r ∧ r.point = furthest) ∧
    ∀ tokens r, Reads (Glyph.ofBytes bytes) tokens r →
      r.point.byte ≤ furthest.byte ∧ Begins bytes tokens r.point := by
  obtain ⟨⟨r, hreached, hpoint⟩, hlast⟩ := Parser.furthest_of_parse (Program.ofGlyphs_eq_invalid.1 h)
  obtain ⟨tokens, hreads⟩ := Parser.exists_reads hreached
  exact ⟨⟨tokens, r, hreads, hpoint⟩, fun _ r hr => ⟨hlast r hr.reaches, hr.begins⟩⟩

/-- A program that breaks off where a destination can be read in two ways. -/
def brokenSend : List UInt8 :=
  "send $a (source = @a:b /* from */ destination = \x7b remaining kept ,".toList.map fun c => c.toNat.toUInt8

theorem begins_brokenSend : ∃ furthest, Program.ofBytes brokenSend = .invalid furthest ∧
    (∃ tokens r, Reads (Glyph.ofBytes brokenSend) tokens r ∧ r.point = furthest) ∧
    ∀ tokens r, Reads (Glyph.ofBytes brokenSend) tokens r →
      r.point.byte ≤ furthest.byte ∧ Begins brokenSend tokens r.point := by
  have hinvalid : (Program.ofBytes brokenSend).root?.isNone = true := by decide +kernel
  cases hprogram : Program.ofBytes brokenSend with
  | invalid furthest => exact ⟨furthest, rfl, begins_of_invalid brokenSend hprogram⟩
  | valid root =>
    rw [hprogram] at hinvalid
    cases hinvalid

end Numscript
