import Numscript.Proofs.Layout
import Numscript.Proofs.Parser.Commented
import Numscript.Proofs.Tree.Sift

/-!
# Comments

Comments can be added to a valid program wherever no leaf stands, each on lines of its own, also where two
readings are followed. The new text is a valid program as well, and without comments its tree is the one of
the first program without its comments. A byte order mark is passed over at the start of a text only, so
nothing may be added before it.
-/
namespace Numscript

open Grammar (IsLexeme)
open Glyph (encodeAll IsScalar)
open Numscript.Parser (Laid IsGap Accepts)

/--
Bytes, and the same bytes with comments added at some of the places that are allowed. Each comment stands
between two line feeds. Places are told by the number of bytes before them, the first by `i`.
-/
inductive Inserted (allowed : Nat → Prop) : (i : Nat) → List UInt8 → List UInt8 → Prop
  | nil {i : Nat} : Inserted allowed i [] []
  | keep {i : Nat} (b : UInt8) {bytes bytes' : List UInt8} (h : Inserted allowed (i + 1) bytes bytes') :
      Inserted allowed i (b :: bytes) (b :: bytes')
  | comment {i : Nat} {t : Terminal} {c bytes bytes' : List UInt8} (here : allowed i)
      (kind : t.isComment = true) (lexeme : IsLexeme t (Glyph.ofBytes c))
      (h : Inserted allowed i bytes bytes') :
      Inserted allowed i bytes (lineFeedByte :: (c ++ lineFeedByte :: bytes'))

/-- A place before, between or behind some leaves. -/
def Label.Between (leaves : List Label) (i : Nat) : Prop :=
  ∀ l ∈ leaves, i ≤ l.start.byte ∨ l.stop.byte ≤ i

/-- A place where a comment may be added: between leaves, and not before a byte order mark. -/
def IsOpen (bytes : List UInt8) (leaves : List Label) (i : Nat) : Prop :=
  Label.Between leaves i ∧ (bytes.take 3 = markBytes → 3 ≤ i)

/-- A text that has bytes: without strays and surrogates. -/
abbrev Glyph.Scalars (text : List Glyph) : Prop := ∀ g ∈ text, ∃ code, g = .char code ∧ IsScalar code

namespace Glyph

theorem encodeAll_append (a b : List Glyph) : encodeAll (a ++ b) = encodeAll a ++ encodeAll b :=
  List.flatMap_append

theorem encodeAll_cons (g : Glyph) (text : List Glyph) :
    encodeAll (g :: text) = encodeAll [g] ++ encodeAll text :=
  encodeAll_append [g] text

theorem Scalars.append {a b : List Glyph} (ha : Scalars a) (hb : Scalars b) : Scalars (a ++ b) :=
  List.forall_mem_append.2 ⟨ha, hb⟩

/-- Whether a glyph is a code point below the surrogates. -/
def isLow : Glyph → Bool
  | .char code => code < 0xD800
  | .stray => false

theorem Scalars.of_isLow {text : List Glyph} (h : text.all isLow = true) : Scalars text := by
  intro g hg
  have hlow := List.all_eq_true.1 h g hg
  cases g with
  | stray => cases hlow
  | char code => exact ⟨code, rfl, .inl (of_decide_eq_true hlow)⟩

theorem ofBytes_encodeAll_self {text : List Glyph} (h : Scalars text) :
    ofBytes (encodeAll text) = text := by
  have hread := ofBytes_encodeAll h []
  have hnil : ofBytes [] = [] := rfl
  rwa [List.append_nil, hnil, List.append_nil] at hread

theorem Scalars.length_encodeAll {text : List Glyph} (h : Scalars text) :
    (encodeAll text).length = totalSize text := by
  rw [← totalSize_ofBytes, ofBytes_encodeAll_self h]

theorem encodeAll_ofBytes {bytes : List UInt8} (h : .stray ∉ ofBytes bytes) :
    bytes = encodeAll (ofBytes bytes) ∧ Scalars (ofBytes bytes) := by
  obtain ⟨⟨more, hbytes, hmore⟩, hscalars⟩ := exists_encodeAll (List.append_nil _).symm h
  obtain rfl : more = [] := by
    refine List.length_eq_zero_iff.1 ?_
    rw [← totalSize_ofBytes, hmore]
    rfl
  exact ⟨hbytes.trans (List.append_nil _), hscalars⟩

theorem scalars_of_blank {blanks : List Glyph} (h : ∀ g ∈ blanks, g.isBlank = true) :
    Scalars blanks := by
  intro g hg
  have hblank := h g hg
  cases g with
  | stray => cases hblank
  | char code =>
    refine ⟨code, rfl, .inl ?_⟩
    simp only [isBlank, Bool.or_eq_true, Bool.and_eq_true, decide_eq_true_eq] at hblank
    omega

theorem scalars_mark : Scalars [.byteOrderMark] := by
  intro g hg
  obtain rfl := List.mem_singleton.1 hg
  exact ⟨0xFEFF, rfl, .inr (by decide)⟩

end Glyph

open Glyph (Scalars)

theorem Sprinkled.ahead {pre blanks blanks' : List Glyph} (h : Sprinkled [] pre)
    (h' : Sprinkled blanks blanks') : Sprinkled blanks (pre ++ blanks') := by
  generalize hnil : ([] : List Glyph) = none at h
  induction h with
  | nil => exact h'
  | keep => cases hnil
  | comment kind lexeme _ ih =>
    have hcomment := Sprinkled.comment kind lexeme (ih hnil)
    simpa using hcomment

theorem Sprinkled.behind {blanks blanks' comments : List Glyph} (h : Sprinkled blanks blanks')
    (h' : Sprinkled [] comments) : Sprinkled blanks (blanks' ++ comments) := by
  induction h with
  | nil => exact h'
  | keep g _ ih => exact .keep g ih
  | comment kind lexeme _ ih =>
    have hcomment := Sprinkled.comment kind lexeme ih
    simpa using hcomment

theorem Sprinkles.append {before gap gap' comments : List Glyph} (h : Sprinkles before gap gap')
    (h' : Sprinkled [] comments) : Sprinkles before gap (gap' ++ comments) := by
  obtain ⟨blank, marked, sprinkled⟩ := h
  rw [List.append_assoc]
  exact .mk blank marked (sprinkled.behind h')

namespace Inserted

variable {allowed : Nat → Prop} {i : Nat}

theorem eq_nil {bytes : List UInt8} (h : Inserted allowed i [] bytes) (none : ¬allowed i) :
    bytes = [] := by
  cases h with
  | nil => rfl
  | comment here => exact absurd here none

theorem sprinkled {bytes : List UInt8} (h : Inserted allowed i [] bytes) :
    ∃ text, bytes = encodeAll text ∧ Scalars text ∧ Sprinkled [] text := by
  generalize hnil : ([] : List UInt8) = none at h
  induction h with
  | nil => exact ⟨[], rfl, nofun, .nil⟩
  | keep => cases hnil
  | @comment _ t c _ _ _ kind lexeme _ ih =>
    obtain ⟨text, rfl, hscalars, hsprinkled⟩ := ih hnil
    obtain ⟨hc, hplain⟩ := Glyph.encodeAll_ofBytes (stray_not_mem lexeme)
    have hfeed : Scalars [.lineFeed] := Glyph.scalars_of_blank (by decide)
    refine ⟨.lineFeed :: (Glyph.ofBytes c ++ .lineFeed :: text), ?_,
      hfeed.append (hplain.append (hfeed.append hscalars)), .comment kind lexeme hsprinkled⟩
    have hencode : ∀ rest, encodeAll (.lineFeed :: rest) = lineFeedByte :: encodeAll rest :=
      fun _ => rfl
    rw [hencode, Glyph.encodeAll_append, hencode, ← hc]

/-- Where no place inside of a word is allowed, comments are added before and behind it only. -/
theorem keep_word {word rest bytes' : List UInt8} (nonempty : word ≠ [])
    (h : Inserted allowed i (word ++ rest) bytes')
    (inside : ∀ j, i < j → j < i + word.length → ¬allowed j) : ∃ pre rest', bytes' = pre ++ (word ++ rest') ∧
      Inserted allowed i [] pre ∧ Inserted allowed (i + word.length) rest rest' := by
  generalize hall : word ++ rest = all at h
  induction h generalizing word with
  | nil => exact absurd (List.append_eq_nil_iff.1 hall).1 nonempty
  | @keep i b bytes bytes' h ih =>
    cases word with
    | nil => exact absurd rfl nonempty
    | cons b' word =>
      obtain ⟨rfl, rfl⟩ := List.cons.inj hall
      by_cases hword : word = []
      · subst hword
        exact ⟨[], bytes', rfl, .nil, h⟩
      · have hpos := List.length_pos_iff.2 hword
        rw [List.length_cons] at inside ⊢
        obtain ⟨pre, rest', rfl, hpre, hrest⟩ :=
          ih hword (fun j hj hlt => inside j (by omega) (by omega)) rfl
        obtain rfl := hpre.eq_nil (inside (i + 1) (by omega) (by omega))
        refine ⟨[], rest', rfl, .nil, ?_⟩
        rwa [Nat.add_comm word.length, ← Nat.add_assoc]
  | comment here kind lexeme _ ih =>
    obtain ⟨pre, rest', rfl, hpre, hrest⟩ := ih nonempty inside hall
    exact ⟨_, rest', by simp, .comment here kind lexeme hpre, hrest⟩

/-- Comments that are added to white space. -/
theorem blanks {blanks : List Glyph} {rest bytes' : List UInt8}
    (h : Inserted allowed i (encodeAll blanks ++ rest) bytes')
    (blank : ∀ g ∈ blanks, g.isBlank = true) : ∃ blanks' rest', bytes' = encodeAll blanks' ++ rest' ∧
      Scalars blanks' ∧ Sprinkled blanks blanks' ∧
      Inserted allowed (i + Glyph.totalSize blanks) rest rest' := by
  induction blanks generalizing i bytes' with
  | nil => exact ⟨[], bytes', rfl, nofun, .nil, h⟩
  | cons g blanks ih =>
    rw [List.forall_mem_cons] at blank
    have hscalar : Scalars [g] := Glyph.scalars_of_blank (by simpa using blank.1)
    have hsize : Glyph.totalSize [g] = 1 := by
      obtain ⟨code, rfl, -⟩ := hscalar g List.mem_cons_self
      have hblank := blank.1
      simp only [Glyph.isBlank, Bool.or_eq_true, Bool.and_eq_true, decide_eq_true_eq] at hblank
      have hlow : code < 0x80 := by omega
      simp [Glyph.totalSize, Glyph.size, hlow]
    have hlength := hscalar.length_encodeAll
    rw [Glyph.encodeAll_cons, List.append_assoc] at h
    obtain ⟨pre, more, rfl, hpre, hmore⟩ := h.keep_word
      (List.ne_nil_of_length_pos (by omega)) fun j hj hlt => by omega
    obtain ⟨comments, rfl, hcomments, hsprinkled⟩ := hpre.sprinkled
    obtain ⟨blanks', rest', rfl, hscalars, hsprinkled', hrest⟩ := ih hmore blank.2
    refine ⟨comments ++ g :: blanks', rest', ?_, hcomments.append (hscalar.append hscalars),
      hsprinkled.ahead (.keep g hsprinkled'), ?_⟩
    · rw [Glyph.encodeAll_append, Glyph.encodeAll_cons g blanks', List.append_assoc, List.append_assoc]
    · rw [← List.singleton_append, Glyph.totalSize_append, ← hlength, ← Nat.add_assoc]
      exact hrest

/-- Comments that are added to a gap. -/
theorem gap {before gap : List Glyph} {rest bytes' : List UInt8}
    (h : Inserted allowed (Glyph.totalSize before) (encodeAll gap ++ rest) bytes')
    (isGap : IsGap before gap)
    (mark : before = [] → gap.head? = some .byteOrderMark → ∀ j < 3, ¬allowed j) :
    ∃ gap' rest', bytes' = encodeAll gap' ++ rest' ∧ Scalars gap' ∧ Sprinkles before gap gap' ∧
      Inserted allowed (Glyph.totalSize (before ++ gap)) rest rest' := by
  obtain ⟨first, blanks, rfl, hblank, hmark⟩ := isGap
  rcases hmark with rfl | ⟨rfl, rfl⟩
  · obtain ⟨blanks', rest', rfl, hscalars, hsprinkled, hrest⟩ := h.blanks hblank
    rw [← Glyph.totalSize_append] at hrest
    exact ⟨blanks', rest', rfl, hscalars, @Sprinkles.mk before [] _ _ hblank (.inl rfl) hsprinkled, hrest⟩
  · have hnot := mark rfl rfl
    rw [Glyph.encodeAll_append, List.append_assoc] at h
    have hsize : Glyph.totalSize [] = 0 := rfl
    have hlength : (encodeAll [.byteOrderMark]).length = 3 := rfl
    rw [hsize] at h
    obtain ⟨pre, more, rfl, hpre, hmore⟩ := h.keep_word (by decide) fun j _ hlt =>
      hnot j (by omega)
    obtain rfl := hpre.eq_nil (hnot 0 (by decide))
    obtain ⟨blanks', rest', rfl, hscalars, hsprinkled, hrest⟩ := hmore.blanks hblank
    refine ⟨[.byteOrderMark] ++ blanks', rest', ?_, Glyph.scalars_mark.append hscalars,
      .mk hblank (.inr ⟨rfl, rfl⟩) hsprinkled, ?_⟩
    · rw [Glyph.encodeAll_append, List.nil_append, List.append_assoc]
    · rw [List.nil_append, Glyph.totalSize_append]
      rwa [hlength, Nat.zero_add] at hrest

end Inserted

theorem stray_of_isGap {before gap : List Glyph} (h : IsGap before gap) : .stray ∉ gap := by
  obtain ⟨mark, blanks, rfl, hblank, hmark⟩ := h
  rw [List.mem_append, not_or]
  refine ⟨?_, fun hmem => absurd (hblank _ hmem) (by decide)⟩
  rcases hmark with rfl | ⟨-, rfl⟩
  · exact List.not_mem_nil
  · decide

theorem Parser.Laid.stray_not_mem {before : List Glyph} {tokens : List Token} (h : Laid before tokens) :
    .stray ∉ before := by
  induction h with
  | nil => exact List.not_mem_nil
  | snoc _ isGap lexeme _ _ ih =>
    rw [List.mem_append, List.mem_append, not_or, not_or]
    exact ⟨⟨ih, stray_of_isGap isGap⟩, Numscript.stray_not_mem lexeme⟩

theorem Parser.Accepts.stray_not_mem {text : List Glyph} {tokens : List Token} {root : Tree}
    (h : Accepts text tokens root) : .stray ∉ text := by
  obtain ⟨before, gap, rfl, hlaid, hgap⟩ := h.laid
  rw [List.mem_append, not_or]
  exact ⟨hlaid.stray_not_mem, stray_of_isGap hgap⟩

/-- Comments that are added to the front of a text where no token stands. -/
theorem Parser.Laid.commented {allowed : Nat → Prop} {before : List Glyph} {tokens : List Token}
    {rest bytes' : List UInt8} (h : Laid before tokens) (scalars : Scalars before)
    (inserted : Inserted allowed 0 (encodeAll before ++ rest) bytes')
    (free : ∀ t ∈ tokens, ∀ j, t.start.byte < j → j < t.stop.byte → ¬allowed j)
    (mark : before.head? = some .byteOrderMark → ∀ j < 3, ¬allowed j) :
    ∃ front rest', bytes' = encodeAll front ++ rest' ∧ Scalars front ∧
      Commented before tokens front ∧ Inserted allowed (Glyph.totalSize before) rest rest' := by
  induction h generalizing rest bytes' with
  | nil => exact ⟨[], bytes', rfl, nofun, .nil, inserted⟩
  | @snoc before gap word tokens token front isGap lexeme start stop ih =>
    have hscalars := scalars
    simp only [Scalars, List.forall_mem_append] at hscalars
    rw [List.forall_mem_append] at free
    have hinside := free.2 token List.mem_cons_self
    rw [start, stop, Point.origin_behind_byte, Point.origin_behind_byte,
      Glyph.totalSize_append _ word] at hinside
    rw [Glyph.encodeAll_append, Glyph.encodeAll_append, List.append_assoc, List.append_assoc] at inserted
    obtain ⟨front, rest₁, rfl, hfront, hcommented, hrest₁⟩ :=
      ih hscalars.1.1 inserted free.1 fun hmark =>
        mark (by rw [List.append_assoc, List.head?_append, hmark]; rfl)
    obtain ⟨gap', rest₂, rfl, hgap, hsprinkles, hrest₂⟩ := hrest₁.gap isGap fun hnil hmark =>
      mark (by rw [hnil, List.nil_append, List.head?_append, hmark]; rfl)
    have hlength : (encodeAll word).length = Glyph.totalSize word :=
      Scalars.length_encodeAll hscalars.2
    obtain ⟨pre, rest₃, rfl, hpre, hrest₃⟩ := hrest₂.keep_word (by
      have hsize : Glyph.totalSize word ≠ 0 := fun hzero =>
        Lexer.ne_nil_of_isLexeme lexeme (Glyph.eq_nil_of_totalSize hzero)
      exact List.ne_nil_of_length_pos (by omega)) (hlength ▸ hinside)
    obtain ⟨comments, rfl, hcomments, hsprinkled⟩ := hpre.sprinkled
    refine ⟨front ++ (gap' ++ comments) ++ word, rest₃, ?_,
      (hfront.append (hgap.append hcomments)).append hscalars.2,
      .snoc hcommented (hsprinkles.append hsprinkled) lexeme start stop, ?_⟩
    · simp only [Glyph.encodeAll_append, List.append_assoc]
    · rwa [hlength, ← Glyph.totalSize_append] at hrest₃

/-- Where comments are added to an accepted text, they are added to the gaps between its tokens. -/
theorem Parser.Accepts.inserted {allowed : Nat → Prop} {bytes bytes' : List UInt8}
    {tokens : List Token} {tree : Tree} (h : Accepts (Glyph.ofBytes bytes) tokens tree)
    (inserted : Inserted allowed 0 bytes bytes')
    (free : ∀ t ∈ tokens, ∀ j, t.start.byte < j → j < t.stop.byte → ¬allowed j)
    (mark : bytes.take 3 = markBytes → ∀ j < 3, ¬allowed j) : ∃ before gap front gap',
      Glyph.ofBytes bytes = before ++ gap ∧ Glyph.ofBytes bytes' = front ++ gap' ∧
      Commented before tokens front ∧ Sprinkles before gap gap' := by
  obtain ⟨before, gap, hsplit, hlaid, hgap⟩ := h.laid
  obtain ⟨hbytes, hscalars⟩ := Glyph.encodeAll_ofBytes h.stray_not_mem
  rw [hsplit] at hbytes hscalars
  simp only [Scalars, List.forall_mem_append] at hscalars
  have hmark : (before ++ gap).head? = some .byteOrderMark → ∀ j < 3, ¬allowed j := by
    intro hhead
    obtain ⟨tail, htail⟩ := List.head?_eq_some_iff.1 hhead
    have hfirst : bytes = markBytes ++ encodeAll tail := by
      rw [hbytes, htail, Glyph.encodeAll_cons]
      rfl
    exact mark (by rw [hfirst]; rfl)
  rw [hbytes, Glyph.encodeAll_append] at inserted
  obtain ⟨front, rest, rfl, hfront, hcommented, hrest⟩ := hlaid.commented hscalars.1 inserted free
    fun hhead => hmark (by rw [List.head?_append, hhead]; rfl)
  rw [← List.append_nil (encodeAll gap)] at hrest
  obtain ⟨gap', last, rfl, hgap', hsprinkles, hlast⟩ := hrest.gap hgap fun hnil hhead =>
    hmark (by rw [hnil, List.nil_append, hhead])
  obtain ⟨comments, rfl, hcomments, hsprinkled⟩ := hlast.sprinkled
  refine ⟨before, gap, front, gap' ++ comments, hsplit, ?_, hcommented, hsprinkles.append hsprinkled⟩
  rw [← Glyph.encodeAll_append, ← Glyph.encodeAll_append]
  exact Glyph.ofBytes_encodeAll_self (hfront.append (hgap'.append hcomments))

/-- With comments added, a program is a program, and its tree is the same but for comments. -/
theorem comments_of_valid (bytes bytes' : List UInt8) {root : Node}
    (h : Program.ofBytes bytes = .valid root)
    (inserted : Inserted (IsOpen bytes root.leaves) 0 bytes bytes') :
    ∃ root', Program.ofBytes bytes' = .valid root' ∧
      (root'.form (Glyph.ofBytes bytes')).withoutComments =
        (root.form (Glyph.ofBytes bytes)).withoutComments := by
  obtain ⟨tokens, tree, hparse, haccepts, hroot, hshows⟩ := exists_tokens_of_valid bytes h
  obtain ⟨before, gap, front, gap', hsplit, hsplit', hcommented, hsprinkles⟩ :=
    haccepts.inserted inserted (fun t ht j hlow hhigh hopen => by
      obtain ⟨l, hl, hleaf⟩ := exists_leaf_of_token hshows ht
      have hplace := hopen.1 l hl
      rw [hleaf.start, hleaf.stop] at hplace
      omega) fun hmark j hj hopen => Nat.not_le_of_lt hj (hopen.2 hmark)
  obtain ⟨tree', hparse', hcopy⟩ :=
    Parser.parse_commented hparse haccepts hcommented hsprinkles hsplit hsplit'
  obtain ⟨_, layout, children, rfl⟩ := Parser.built_of_recognises haccepts.recognises
  obtain ⟨_, layout', children', rfl⟩ :=
    Parser.built_of_recognises (Parser.recognises_of_parse hparse')
  refine ⟨_, by rw [Program.ofBytes, Program.ofGlyphs, hparse', behind_ofBytes], ?_⟩
  rw [hroot, ← Tree.form_program_sifted _ _ _ _ _ .origin,
    ← Tree.form_program_sifted _ _ _ _ _ .origin]
  exact hcopy.form_program _ _

/-- Bytes with a comment at some places: a line that holds two slashes. -/
def commentAt (places : List Nat) : (i : Nat) → List UInt8 → List UInt8
  | i, [] => if i ∈ places then [10, 47, 47, 10] else []
  | i, b :: bytes =>
    (if i ∈ places then [10, 47, 47, 10] else []) ++ b :: commentAt places (i + 1) bytes

theorem inserted_commentAt {allowed : Nat → Prop} {places : List Nat}
    (opens : ∀ j ∈ places, allowed j) (i : Nat) (bytes : List UInt8) :
    Inserted allowed i bytes (commentAt places i bytes) := by
  have hlexeme : IsLexeme .lineComment (Glyph.ofBytes [47, 47]) :=
    Regular.accepts_iff.1 (by decide +kernel)
  have hcomment : ∀ {i : Nat} {bytes bytes' : List UInt8}, Inserted allowed i bytes bytes' →
      Inserted allowed i bytes ((if i ∈ places then [10, 47, 47, 10] else []) ++ bytes') := by
    intro i bytes bytes' h
    split
    · next hi => exact .comment (c := [47, 47]) (opens i hi) rfl hlexeme h
    · exact h
  induction bytes generalizing i with
  | nil =>
    have hnil := hcomment (@Inserted.nil allowed i)
    rwa [List.append_nil] at hnil
  | cons b bytes ih => exact hcomment (.keep b (ih (i + 1)))

instance (leaves : List Label) (i : Nat) : Decidable (Label.Between leaves i) :=
  inferInstanceAs (Decidable (∀ l ∈ leaves, _ ∨ _))

instance (bytes : List UInt8) (leaves : List Label) (i : Nat) : Decidable (IsOpen bytes leaves i) :=
  inferInstanceAs (Decidable (_ ∧ (_ → _)))

/-- The bytes of "send $a(source=@b destination={remaining kept})". -/
def keptRest : List UInt8 :=
  [115, 101, 110, 100, 32, 36, 97, 40, 115, 111, 117, 114, 99, 101, 61, 64, 98, 32, 100, 101, 115,
    116, 105, 110, 97, 116, 105, 111, 110, 61, 123, 114, 101, 109, 97, 105, 110, 105, 110, 103, 32,
    107, 101, 112, 116, 125, 41]

/-- Places before and behind the program, inside of the account, and inside of the braces. -/
def keptPlaces : List Nat := [0, 16, 31, 40, 45, 47]

theorem comments_keptRest : ∃ root root', Program.ofBytes keptRest = .valid root ∧
    Inserted (IsOpen keptRest root.leaves) 0 keptRest (commentAt keptPlaces 0 keptRest) ∧
    Program.ofBytes (commentAt keptPlaces 0 keptRest) = .valid root' ∧
    (root'.form (Glyph.ofBytes (commentAt keptPlaces 0 keptRest))).withoutComments =
      (root.form (Glyph.ofBytes keptRest)).withoutComments := by
  have hopen : (Program.ofBytes keptRest).root?.any (fun root =>
      decide (∀ j ∈ keptPlaces, IsOpen keptRest root.leaves j)) = true := by
    decide +kernel
  cases hprogram : Program.ofBytes keptRest with
  | invalid furthest =>
    rw [hprogram] at hopen
    cases hopen
  | valid root =>
    rw [hprogram] at hopen
    have hinserted := inserted_commentAt (of_decide_eq_true hopen) 0 keptRest
    obtain ⟨root', hvalid, hform⟩ := comments_of_valid keptRest _ hprogram hinserted
    exact ⟨root, root', rfl, hinserted, hvalid, hform⟩

/-- The bytes of the call "f()" behind a byte order mark. -/
def markedFee : List UInt8 := markBytes ++ [102, 40, 41]

/-- Nothing can be added before a byte order mark, though no leaf stands there. -/
theorem comment_before_mark : ∃ root, Program.ofBytes markedFee = .valid root ∧
    Inserted (Label.Between root.leaves) 0 markedFee (commentAt [0] 0 markedFee) ∧
    ∀ root', Program.ofBytes (commentAt [0] 0 markedFee) ≠ .valid root' := by
  have hopen : (Program.ofBytes markedFee).root?.any (fun root =>
      decide (Label.Between root.leaves 0)) = true := by
    decide +kernel
  have hinvalid : (Program.ofBytes (commentAt [0] 0 markedFee)).root?.isNone = true := by
    decide +kernel
  cases hprogram : Program.ofBytes markedFee with
  | invalid furthest =>
    rw [hprogram] at hopen
    cases hopen
  | valid root =>
    rw [hprogram] at hopen
    have hplace : ∀ j ∈ [0], Label.Between root.leaves j :=
      List.forall_mem_singleton.2 (of_decide_eq_true hopen)
    refine ⟨root, rfl, inserted_commentAt hplace 0 markedFee, fun root' hvalid => ?_⟩
    rw [hvalid] at hinvalid
    cases hinvalid

end Numscript
