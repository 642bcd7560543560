import Numscript.Proofs.Parser.Sweep
import Numscript.Proofs.Parser.Run
import Numscript.Proofs.Text.Bytes
import Numscript.Proofs.Tree.Leaves

/-!
# Tiling

The leaves of a valid program tile its text. They stand behind one another in the order of the text, each
takes room, and between them nothing is lost but white space and a byte order mark at the start. Every
other node spans from its first child to its last one. Rows and columns count line feeds and the bytes
behind them.
-/
namespace Numscript

open Numscript.Parser (Laid IsGap Accepts)

/-- A byte that belongs to no token: white space, or one of a byte order mark at the start. -/
def IsPassed (bytes : List UInt8) (i : Nat) : Prop :=
  (∃ b, bytes[i]? = some b ∧ isBlankByte b = true) ∨ i < 3 ∧ bytes.take 3 = markBytes

/-- A point is told by the bytes before it. -/
def Point.Counts (bytes : List UInt8) (p : Point) : Prop := p = Point.ofBytes (bytes.take p.byte)

theorem isPassed_of_blank {bytes : List UInt8} {before blanks rest : List Glyph}
    (h : Glyph.ofBytes bytes = before ++ (blanks ++ rest))
    (blank : ∀ g ∈ blanks, g.isBlank = true) {i : Nat} (low : Glyph.totalSize before ≤ i)
    (high : i < Glyph.totalSize (before ++ blanks)) : IsPassed bytes i := by
  obtain ⟨front, more, rfl, hmore, hfront, _, _⟩ := Glyph.exists_bytes h
  obtain ⟨middle, last, rfl, _, hmiddle, _, hall⟩ := Glyph.exists_bytes hmore
  rw [Glyph.totalSize_append, ← hfront, ← hmiddle] at high
  rw [← hfront] at low
  have hlt : i - front.length < middle.length := by omega
  refine .inl ⟨middle[i - front.length], ?_, ?_⟩
  · rw [List.getElem?_append_right low, List.getElem?_append_left hlt, List.getElem?_eq_getElem hlt]
  · exact List.all_eq_true.1 (hall blank) _ (List.getElem_mem hlt)

/-- The bytes of a gap are passed over. -/
theorem isPassed_of_isGap {bytes : List UInt8} {before gap rest : List Glyph}
    (h : Glyph.ofBytes bytes = before ++ gap ++ rest) (isGap : IsGap before gap) {i : Nat}
    (low : Glyph.totalSize before ≤ i) (high : i < Glyph.totalSize (before ++ gap)) :
    IsPassed bytes i := by
  obtain ⟨mark, blanks, rfl, hblank, rfl | ⟨rfl, rfl⟩⟩ := isGap
  · exact isPassed_of_blank (by simpa using h) hblank low (by simpa using high)
  · by_cases hi : i < 3
    · obtain ⟨chunk, more, rfl, hchunk, _⟩ := @Glyph.exists_chunk _ .byteOrderMark _ h
      rw [hchunk.mark rfl]
      exact .inr ⟨hi, rfl⟩
    · have hsize : Glyph.totalSize [Glyph.byteOrderMark] = 3 := rfl
      have hsplit : Glyph.ofBytes bytes = [.byteOrderMark] ++ (blanks ++ rest) := by simpa using h
      refine isPassed_of_blank hsplit hblank ?_ (by simpa using high)
      omega

/-- The bytes before a place where some tokens were laid out belong to these tokens or are passed over. -/
theorem Parser.Laid.isPassed {bytes : List UInt8} {before rest : List Glyph} {tokens : List Token}
    (h : Laid before tokens) (split : Glyph.ofBytes bytes = before ++ rest) {i : Nat}
    (hi : i < Glyph.totalSize before)
    (free : ∀ t ∈ tokens, ¬(t.start.byte ≤ i ∧ i < t.stop.byte)) : IsPassed bytes i := by
  induction h generalizing rest with
  | nil => exact absurd hi (Nat.not_lt_zero i)
  | @snoc before gap word tokens token front isGap lexeme start stop ih =>
    have hsplit : Glyph.ofBytes bytes = before ++ (gap ++ word ++ rest) := by simpa using split
    by_cases hbefore : i < Glyph.totalSize before
    · refine ih hsplit hbefore fun t ht => ?_
      exact free t (List.mem_append_left _ ht)
    · have hfree := free token (by simp)
      rw [start, stop, Point.behind_byte, Point.behind_byte] at hfree
      have horigin : Point.origin.byte = 0 := rfl
      have hgap : Glyph.ofBytes bytes = before ++ gap ++ (word ++ rest) := by simpa using split
      refine isPassed_of_isGap hgap isGap (Nat.le_of_not_lt hbefore) ?_
      omega

/-- Tokens that are laid out stand behind one another, and each takes room. -/
theorem Parser.Laid.inOrder {before : List Glyph} {tokens : List Token} (h : Laid before tokens) :
    (∀ t ∈ tokens, t.start.byte < t.stop.byte ∧ t.stop.byte ≤ Glyph.totalSize before) ∧
      tokens.Pairwise fun a b => a.stop.byte ≤ b.start.byte := by
  induction h with
  | nil => exact ⟨nofun, .nil⟩
  | @snoc before gap word tokens token front isGap lexeme start stop ih =>
    obtain ⟨hroom, hapart⟩ := ih
    have hword : Glyph.totalSize word ≠ 0 := fun hzero =>
      Lexer.ne_nil_of_isLexeme lexeme (Glyph.eq_nil_of_totalSize hzero)
    have horigin : Point.origin.byte = 0 := rfl
    have hstart := congrArg Point.byte start
    have hstop := congrArg Point.byte stop
    simp only [Point.behind_byte, Glyph.totalSize_append, horigin, Nat.zero_add] at hstart hstop
    simp only [Glyph.totalSize_append]
    constructor
    · intro t ht
      rcases List.mem_append.1 ht with ht | ht
      · have hlast := hroom t ht
        omega
      · obtain rfl := List.mem_singleton.1 ht
        omega
    · refine List.pairwise_append.2 ⟨hapart, List.pairwise_singleton _ _, fun a ha b hb => ?_⟩
      obtain rfl := List.mem_singleton.1 hb
      have hlast := hroom a ha
      omega

/-- The ends of a token that is laid out are told by the bytes before them. -/
theorem Parser.Laid.counts {bytes : List UInt8} {before rest : List Glyph} {tokens : List Token}
    (h : Laid before tokens) (split : Glyph.ofBytes bytes = before ++ rest) :
    ∀ t ∈ tokens, t.start.Counts bytes ∧ t.stop.Counts bytes := by
  induction h generalizing rest with
  | nil => nofun
  | @snoc before gap word tokens token front isGap lexeme start stop ih =>
    have hgap : Glyph.ofBytes bytes = before ++ gap ++ (word ++ rest) := by simpa using split
    intro t ht
    rcases List.mem_append.1 ht with ht | ht
    · exact ih (by simpa using hgap) t ht
    · obtain rfl := List.mem_singleton.1 ht
      rw [Point.Counts, Point.Counts, start, stop]
      exact ⟨(Point.ofBytes_take hgap).symm, (Point.ofBytes_take split).symm⟩

theorem exists_token_of_leaf {tokens : List Token} {labels : List Label}
    (h : List.Forall₂ Label.Shows tokens labels) {l : Label} (hl : l ∈ labels) :
    ∃ t ∈ tokens, Label.Shows t l :=
  Parser.exists_of_forall₂ h.flip hl

theorem exists_leaf_of_token {tokens : List Token} {labels : List Label}
    (h : List.Forall₂ Label.Shows tokens labels) {t : Token} (ht : t ∈ tokens) :
    ∃ l ∈ labels, Label.Shows t l :=
  Parser.exists_of_forall₂ h ht

theorem Label.inOrder_of_shows {tokens : List Token} {labels : List Label}
    (h : List.Forall₂ Label.Shows tokens labels) (room : ∀ t ∈ tokens, t.start.byte < t.stop.byte)
    (apart : tokens.Pairwise fun a b => a.stop.byte ≤ b.start.byte) : InOrder labels := by
  induction h with
  | nil => exact ⟨fun _ hl => absurd hl List.not_mem_nil, .nil⟩
  | @cons t l tokens labels hshows hrest ih =>
    obtain ⟨hfirst, hothers⟩ := List.pairwise_cons.1 apart
    obtain ⟨hroom, hapart⟩ := ih (fun t' ht' => room t' (List.mem_cons_of_mem _ ht')) hothers
    constructor
    · intro l' hl'
      rcases List.mem_cons.1 hl' with rfl | hl'
      · rw [hshows.start, hshows.stop]
        exact room t List.mem_cons_self
      · exact hroom l' hl'
    · refine List.pairwise_cons.2 ⟨fun l' hl' => ?_, hapart⟩
      obtain ⟨t', ht', hshows'⟩ := exists_token_of_leaf hrest hl'
      rw [hshows.stop, hshows'.start]
      exact hfirst t' ht'

/-- How the visible tree of a program lies over its bytes. -/
structure Tiling (bytes : List UInt8) (root : Node) : Prop where
  /-- The leaves take room and stand behind one another. -/
  leaves : Label.InOrder root.leaves
  /-- A node below the root is a leaf, or it spans from its first child to its last one. -/
  spans : ∀ n ∈ root.inside, (n.children = [] ∧ n.leaves = [n.label]) ∨
    ∃ first last, n.children.head? = some first ∧ n.children.getLast? = some last ∧
      n.label.start = first.label.start ∧ n.label.stop = last.label.stop
  /-- Children lie inside their parent. -/
  within : ∀ n ∈ root :: root.inside, ∀ c ∈ n.children,
    n.label.start.byte ≤ c.label.start.byte ∧ c.label.stop.byte ≤ n.label.stop.byte
  /-- The root starts where its first child does, and at the end of the text if it has none. -/
  start : root.label.start =
    (root.children.head?.map (·.label.start)).getD (Point.ofBytes bytes)
  /-- The root ends with the text. -/
  stop : root.label.stop = Point.ofBytes bytes
  /-- What lies in no leaf is white space, or a byte order mark at the start. -/
  gaps : ∀ i < bytes.length, (∀ l ∈ root.leaves, ¬(l.start.byte ≤ i ∧ i < l.stop.byte)) →
    IsPassed bytes i
  /-- The leaves are the tokens that were pushed by the run which the tree comes from. -/
  tokens : ∃ tokens tree, Parser.parse (Glyph.ofBytes bytes) = .valid tree ∧
    Accepts (Glyph.ofBytes bytes) tokens tree ∧ root = tree.program (Point.ofBytes bytes) ∧
    List.Forall₂ Label.Shows tokens root.leaves
  /-- The row of a boundary counts the line feeds before it, the column the bytes since the last. -/
  points : ∀ n ∈ root :: root.inside, n.label.start.Counts bytes ∧ n.label.stop.Counts bytes

namespace Node

theorem Spanned.spans {n : Node} (h : n.Spanned) : (n.children = [] ∧ n.leaves = [n.label]) ∨
    ∃ first last, n.children.head? = some first ∧ n.children.getLast? = some last ∧
      n.label.start = first.label.start ∧ n.label.stop = last.label.stop := by
  cases h with
  | leaf plain => exact .inl ⟨rfl, plain⟩
  | @inner label children some_ start stop below =>
    have hfirst := List.head?_eq_some_head some_
    have hlast := List.getLast?_eq_some_getLast some_
    exact .inr ⟨_, _, hfirst, hlast, start _ hfirst, stop _ hlast⟩

theorem mem_inside_of_mem_children {n c : Node} (h : c ∈ n.children) : c ∈ n.inside := by
  cases n with
  | mk label children =>
    rw [inside, insideAll_eq]
    exact List.mem_flatMap.2 ⟨c, h, List.mem_cons_self⟩

end Node

/-- The leaves of a program are those of its children, as long as it shows as a program. -/
theorem leaves_program (start textEnd : Point) (phrase : Nonterminal) (children : List Node) :
    (Node.mk ⟨.nonterminal phrase, none, false, start, textEnd⟩ children).leaves =
      Node.leavesOfAll children := by
  cases children <;> rfl

/-- Nodes below a displayed node lie inside it, if its leaves are in order. -/
theorem Node.Spanned.children_within {n : Node} (h : n.Spanned) (order : Label.InOrder n.leaves) :
    ∀ c ∈ n.children,
      n.label.start.byte ≤ c.label.start.byte ∧ c.label.stop.byte ≤ n.label.stop.byte := by
  intro c hc
  obtain ⟨hspanned, hleaves⟩ := h.of_mem_inside (mem_inside_of_mem_children hc)
  exact h.within hspanned hleaves order

/-- The tree over nodes that display the tokens of a text. -/
theorem Tree.Displays.root_start {tokens : List Token} {nodes : List Node}
    (h : Displays tokens nodes) (order : Label.InOrder (Node.leavesOfAll nodes)) (textEnd : Point) :
    ∀ n ∈ nodes, ((nodes.head?.map (·.label.start)).getD textEnd).byte ≤ n.label.start.byte := by
  intro n hn
  obtain ⟨c, rest, rfl⟩ := List.exists_cons_of_ne_nil (List.ne_nil_of_mem hn)
  obtain ⟨⟨first, hfirst, hstart⟩, _⟩ := (h.spanned c List.mem_cons_self).ends
  obtain ⟨⟨first', hfirst', hstart'⟩, _⟩ := (h.spanned n hn).ends
  have hhead : first ∈ (Node.leavesOfAll (c :: rest)).head? := by
    rw [Node.leavesOfAll, List.head?_append, Option.mem_def.1 hfirst]
    rfl
  have hmem : first' ∈ Node.leavesOfAll (c :: rest) := by
    rw [Node.leavesOfAll_eq]
    exact List.mem_flatMap.2 ⟨n, hn, List.mem_of_mem_head? hfirst'⟩
  have hne : Node.leavesOfAll (c :: rest) ≠ [] := List.ne_nil_of_mem hmem
  have hbounds := order.bounds hhead (List.getLast?_eq_some_getLast hne) hmem
  rw [List.head?_cons, Option.map_some, Option.getD_some, hstart, hstart']
  exact hbounds.1

/-- Whatever ends a node is the end of a leaf below it. -/
theorem Node.Spanned.counts {bytes : List UInt8} {n : Node} (h : n.Spanned)
    (leaves : ∀ l ∈ n.leaves, l.start.Counts bytes ∧ l.stop.Counts bytes) :
    n.label.start.Counts bytes ∧ n.label.stop.Counts bytes := by
  obtain ⟨⟨first, hfirst, hstart⟩, ⟨last, hlast, hstop⟩⟩ := h.ends
  rw [hstart, hstop]
  exact ⟨(leaves first (List.mem_of_mem_head? hfirst)).1,
    (leaves last (List.mem_of_mem_getLast? hlast)).2⟩

theorem behind_ofBytes (bytes : List UInt8) :
    Point.origin.behind (Glyph.ofBytes bytes) = Point.ofBytes bytes := by
  have htake := Point.ofBytes_take (List.append_nil (Glyph.ofBytes bytes)).symm
  rw [Point.behind_byte, Glyph.totalSize_ofBytes] at htake
  simpa [Point.origin] using htake.symm

theorem counts_ofBytes (bytes : List UInt8) : (Point.ofBytes bytes).Counts bytes := by
  rw [Point.Counts, Point.ofBytes, List.take_length]
  rfl

/-- The leaves of a program show the tokens of an accepting run, from whose tree the program comes. -/
theorem exists_tokens_of_valid (bytes : List UInt8) {root : Node}
    (h : Program.ofBytes bytes = .valid root) : ∃ tokens tree,
      Parser.parse (Glyph.ofBytes bytes) = .valid tree ∧ Accepts (Glyph.ofBytes bytes) tokens tree ∧
      root = tree.program (Point.ofBytes bytes) ∧ List.Forall₂ Label.Shows tokens root.leaves := by
  obtain ⟨tree, hparse, rfl⟩ := Program.ofGlyphs_eq_valid.1 h
  obtain ⟨tokens, haccepts⟩ := Parser.exists_accepts (Parser.recognises_of_parse hparse)
  obtain ⟨hbuilt, layout, children, rfl⟩ := Parser.built_of_recognises haccepts.recognises
  have hdisplays := hbuilt.displays.2 _ _ _ rfl
  rw [haccepts.tokens_eq] at hdisplays
  refine ⟨tokens, _, hparse, haccepts, by rw [behind_ofBytes], ?_⟩
  rw [Tree.program, leaves_program]
  exact hdisplays.leaves

theorem leaves_of_valid (bytes : List UInt8) {root : Node} (h : Program.ofBytes bytes = .valid root) :
    Label.InOrder root.leaves ∧ ∀ l ∈ root.leaves, l.start.Counts bytes ∧ l.stop.Counts bytes := by
  obtain ⟨tokens, tree, _, haccepts, _, hshows⟩ := exists_tokens_of_valid bytes h
  obtain ⟨before, gap, hsplit, hlaid, _⟩ := haccepts.laid
  obtain ⟨hroom, hapart⟩ := hlaid.inOrder
  refine ⟨Label.inOrder_of_shows hshows (fun t ht => (hroom t ht).1) hapart, fun l hl => ?_⟩
  obtain ⟨t, ht, hshow⟩ := exists_token_of_leaf hshows hl
  rw [hshow.start, hshow.stop]
  exact hlaid.counts hsplit t ht

theorem spanned_inside_of_valid (bytes : List UInt8) {root : Node} (h : Program.ofBytes bytes = .valid root) :
    ∀ n ∈ root.inside, n.Spanned ∧ n.leaves.Sublist root.leaves := by
  obtain ⟨tokens, tree, _, haccepts, hroot, _⟩ := exists_tokens_of_valid bytes h
  obtain ⟨hbuilt, layout, children, rfl⟩ := Parser.built_of_recognises haccepts.recognises
  have hdisplays := hbuilt.displays.2 _ _ _ rfl
  rw [hroot, Tree.program, leaves_program]
  exact fun n hn => hdisplays.inside hn

theorem counts_inside_of_valid (bytes : List UInt8) {root : Node} (h : Program.ofBytes bytes = .valid root) :
    ∀ n ∈ root.inside, n.label.start.Counts bytes ∧ n.label.stop.Counts bytes := by
  intro n hn
  obtain ⟨hspanned, hsublist⟩ := spanned_inside_of_valid bytes h n hn
  exact hspanned.counts fun l hl => (leaves_of_valid bytes h).2 l (hsublist.subset hl)

/-- The root starts where its first child does, or at the end of the text, and ends with the text. -/
theorem ends_of_valid (bytes : List UInt8) {root : Node} (h : Program.ofBytes bytes = .valid root) :
    root.label.start = (root.children.head?.map (·.label.start)).getD (Point.ofBytes bytes) ∧
      root.label.stop = Point.ofBytes bytes := by
  obtain ⟨_, tree, _, haccepts, rfl, _⟩ := exists_tokens_of_valid bytes h
  obtain ⟨_, _, _, rfl⟩ := Parser.built_of_recognises haccepts.recognises
  exact ⟨rfl, rfl⟩

/-- The children of the root lie inside it. -/
theorem within_root_of_valid (bytes : List UInt8) {root : Node} (h : Program.ofBytes bytes = .valid root) :
    ∀ c ∈ root.children,
      root.label.start.byte ≤ c.label.start.byte ∧ c.label.stop.byte ≤ root.label.stop.byte := by
  intro c hc
  obtain ⟨hstart, hstop⟩ := ends_of_valid bytes h
  constructor
  · obtain ⟨tokens, tree, _, haccepts, rfl, hshows⟩ := exists_tokens_of_valid bytes h
    obtain ⟨hbuilt, layout, children, rfl⟩ := Parser.built_of_recognises haccepts.recognises
    have horder := (leaves_of_valid bytes h).1
    rw [Tree.program, leaves_program] at horder
    exact (hbuilt.displays.2 _ _ _ rfl).root_start horder _ c hc
  · have hcounts := (counts_inside_of_valid bytes h c (Node.mem_inside_of_mem_children hc)).2
    have hbyte : c.label.stop.byte = (bytes.take c.label.stop.byte).length := congrArg Point.byte hcounts
    rw [hstop, hbyte]
    exact List.length_take_le' _ _

/-- The tree of a program tiles its text. -/
theorem tiling_of_valid (bytes : List UInt8) {root : Node}
    (h : Program.ofBytes bytes = .valid root) : Tiling bytes root := by
  obtain ⟨tokens, tree, hparse, haccepts, hroot, hshows⟩ := exists_tokens_of_valid bytes h
  obtain ⟨before, gap, hsplit, hlaid, hgap⟩ := haccepts.laid
  obtain ⟨hstart, hstop⟩ := ends_of_valid bytes h
  have horder := (leaves_of_valid bytes h).1
  have hlength : Glyph.totalSize before + Glyph.totalSize gap = bytes.length := by
    rw [← Glyph.totalSize_append, ← hsplit, Glyph.totalSize_ofBytes]
  refine ⟨horder, ?_, ?_, hstart, hstop, ?_, ?_, ?_⟩
  · exact fun n hn => (spanned_inside_of_valid bytes h n hn).1.spans
  · intro n hn c hc
    rcases List.mem_cons.1 hn with rfl | hn
    · exact within_root_of_valid bytes h c hc
    · obtain ⟨hspanned, hsublist⟩ := spanned_inside_of_valid bytes h n hn
      exact hspanned.children_within (horder.sublist hsublist) c hc
  · intro i hi hfree
    by_cases hbefore : i < Glyph.totalSize before
    · refine hlaid.isPassed hsplit hbefore fun t ht hin => ?_
      obtain ⟨l, hl, hshow⟩ := exists_leaf_of_token hshows ht
      refine hfree l hl ?_
      rw [hshow.start, hshow.stop]
      exact hin
    · have hend : Glyph.ofBytes bytes = before ++ gap ++ [] := by simpa using hsplit
      refine isPassed_of_isGap hend hgap (Nat.le_of_not_lt hbefore) ?_
      rw [Glyph.totalSize_append]
      omega
  · exact ⟨tokens, tree, hparse, haccepts, hroot, hshows⟩
  · intro n hn
    rcases List.mem_cons.1 hn with rfl | hn
    · rw [hstart, hstop]
      refine ⟨?_, counts_ofBytes bytes⟩
      cases hfirst : n.children.head? with
      | none => exact counts_ofBytes bytes
      | some c =>
        have hc := Node.mem_inside_of_mem_children (List.mem_of_mem_head? hfirst)
        exact (counts_inside_of_valid bytes h c hc).1
    · exact counts_inside_of_valid bytes h n hn

/-- A call behind a byte order mark, with a comment on a line of its own. -/
def markedCall : List UInt8 :=
  markBytes ++ [32, 102, 40, 13, 10, 47, 42, 42, 47, 10, 36, 97, 41, 32]

theorem tiling_call : ∃ root : Node,
    Program.ofBytes markedCall = .valid root ∧ Tiling markedCall root := by
  have hvalid : (Program.ofBytes markedCall).root?.isSome = true := by decide +kernel
  cases hprogram : Program.ofBytes markedCall with
  | invalid furthest =>
    rw [hprogram] at hvalid
    cases hvalid
  | valid root => exact ⟨root, rfl, tiling_of_valid markedCall hprogram⟩

end Numscript
