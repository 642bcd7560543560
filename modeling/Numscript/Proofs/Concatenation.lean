import Numscript.Proofs.Comments
import Numscript.Proofs.Parser.Concatenated

/-!
# Concatenation

A valid program, a line feed and another valid program without variables are a valid program. The children of
its root are those of both roots, and the nodes of the second program are moved to their place.
-/
namespace Numscript

open Numscript.Parser (Accepts Concatenated)

/-- A text without strays is told from its bytes, whatever bytes are behind it. -/
theorem Glyph.ofBytes_append {bytes : List UInt8} (h : .stray ∉ ofBytes bytes) (rest : List UInt8) :
    ofBytes (bytes ++ rest) = ofBytes bytes ++ ofBytes rest := by
  obtain ⟨hbytes, hscalars⟩ := encodeAll_ofBytes h
  have hread := ofBytes_encodeAll hscalars rest
  rwa [← hbytes] at hread

theorem Glyph.head?_ne_mark {bytes : List UInt8} (h : ¬markBytes <+: bytes) :
    (ofBytes bytes).head? ≠ some .byteOrderMark := by
  intro hmark
  obtain ⟨text, htext⟩ := List.head?_eq_some_iff.1 hmark
  obtain ⟨chunk, more, rfl, hchunk, _⟩ := exists_chunk htext
  exact h (hchunk.mark rfl ▸ List.prefix_append chunk more)

/-- The children of a program are what its statements, its variables and its comments show as. -/
theorem Tree.children_program {children : List Tree} (found : ∀ c ∈ children, c.Found) (stop : Point) :
    ((node .program .plain children).program stop).children =
      (unrolledAll children).flatMap (·.nodes none none) :=
  nodesFrom_unrolled (fun c hc => (found c hc).nodes_unrolled) 0

/-- Where no child of the root shows as a declaration of variables, no token begins one. -/
theorem Tree.kind_ne_vars {children : List Tree} {stop : Point}
    (found : ∀ c ∈ children, c.Found ∧ (c.isComment = true ∨ c.symbol = .nonterminal .varsDeclaration ∨
      c.symbol = .nonterminal .statements))
    (noVars : ∀ n ∈ ((node .program .plain children).program stop).children,
      n.symbol ≠ .nonterminal .varsDeclaration) :
    ∀ token ∈ tokensOfAll children, token.kind ≠ .kwVars := by
  intro token htoken hvars
  rw [tokensOfAll_eq, List.mem_flatMap] at htoken
  obtain ⟨c, hc, htoken⟩ := htoken
  rcases (found c hc).1.spelt.vars (found c hc).1.inner htoken hvars with rfl | hdeclares
  · have hsymbol := (found _ hc).2
    simp [isComment, symbol, hvars, Terminal.isComment] at hsymbol
  · cases c with
    | leaf => cases hdeclares
    | node phrase layout below =>
      obtain rfl := Symbol.nonterminal.inj hdeclares
      refine noVars (.spanning (.nonterminal .varsDeclaration) none .origin (nodesFrom layout 0 below)) ?_ rfl
      rw [children_program fun c hc => (found c hc).1, List.mem_flatMap]
      refine ⟨.node .varsDeclaration layout below, ?_, List.mem_singleton.2 rfl⟩
      rw [unrolledAll_eq, List.mem_flatMap]
      exact ⟨_, hc, List.mem_singleton.2 rfl⟩

/-- The tree of a program, a line feed and another program. -/
structure Concatenates (bytes bytes' : List UInt8) (root root' whole : Node) : Prop where
  /-- The children of the first root, and those of the second root behind the line feed. -/
  children : whole.children =
    root.children ++ root'.children.map (·.moved (Point.ofBytes (bytes ++ [lineFeedByte])))
  /-- The second program begins a row, behind the bytes of the first one and one byte more. -/
  start : (Point.ofBytes (bytes ++ [lineFeedByte])).byte = bytes.length + 1 ∧
    (Point.ofBytes (bytes ++ [lineFeedByte])).column = 0
  /-- The nodes of the first program have the bytes that they had. -/
  slices : ∀ n ∈ root.inside, n.label.slice (bytes ++ lineFeedByte :: bytes') = n.label.slice bytes
  /-- The nodes of the second program have the bytes that they had. -/
  slicesBehind : ∀ n ∈ root'.inside,
    (n.label.moved (Point.ofBytes (bytes ++ [lineFeedByte]))).slice (bytes ++ lineFeedByte :: bytes') =
      n.label.slice bytes'

theorem Point.ofBytes_lineFeed (bytes : List UInt8) :
    (Point.ofBytes (bytes ++ [lineFeedByte])).byte = bytes.length + 1 ∧
      (Point.ofBytes (bytes ++ [lineFeedByte])).column = 0 := by
  rw [Point.ofBytes_append ⟨rfl, .inl ⟨rfl, rfl⟩, fun _ => rfl, nofun⟩]
  exact ⟨rfl, rfl⟩

theorem Label.slice_append {l : Label} {bytes : List UInt8} (h : l.stop.byte ≤ bytes.length)
    (rest : List UInt8) : l.slice (bytes ++ rest) = l.slice bytes := by
  rw [slice, slice, List.take_append_of_le_length h]

theorem Label.slice_moved {start : Point} {bytes : List UInt8} (h : start.byte = bytes.length) (l : Label)
    (rest : List UInt8) : (l.moved start).slice (bytes ++ rest) = l.slice rest := by
  rw [slice, slice, moved, Point.moved, Point.moved, h, List.take_length_add_append,
    List.drop_length_add_append]

/-- A valid program, a line feed and a valid program without variables are a valid program. -/
theorem concatenates_of_valid (bytes bytes' : List UInt8) {root root' : Node}
    (h : Program.ofBytes bytes = .valid root) (h' : Program.ofBytes bytes' = .valid root')
    (noVars : ∀ n ∈ root'.children, n.symbol ≠ .nonterminal .varsDeclaration)
    (unmarked : ¬markBytes <+: bytes') :
    ∃ whole, Program.ofBytes (bytes ++ lineFeedByte :: bytes') = .valid whole ∧
      Concatenates bytes bytes' root root' whole := by
  have hinside := counts_inside_of_valid bytes h
  obtain ⟨tokens, tree, hparse, haccepts, rfl, _⟩ := exists_tokens_of_valid bytes h
  obtain ⟨tokens', tree', hparse', haccepts', rfl, _⟩ := exists_tokens_of_valid bytes' h'
  obtain ⟨children, rfl, hfound⟩ := haccepts.recognises.found
  obtain ⟨children', rfl, hfound'⟩ := haccepts'.recognises.found
  have htokens := haccepts.tokens_eq
  have htokens' := haccepts'.tokens_eq
  rw [Tree.tokens] at htokens htokens'
  obtain ⟨whole, hwhole, hconcatenated⟩ := haccepts.concatenated haccepts' (Glyph.head?_ne_mark unmarked)
    (htokens' ▸ Tree.kind_ne_vars hfound' noVars)
  obtain ⟨joined, rfl, hjoined⟩ := hwhole.recognises.found
  have hall := hwhole.tokens_eq
  rw [Tree.tokens, ← htokens, ← htokens'] at hall
  have hunrolled := hconcatenated.unrolled (fun c hc => (hfound c hc).1) (fun c hc => (hfound' c hc).1)
    (fun c hc => (hjoined c hc).1) hall
  have hclean : ¬(Tree.node .program .plain joined).Lone := by
    intro hlone
    rw [Tree.lone_program_iff, hunrolled] at hlone
    obtain ⟨c, hc, hlone⟩ := hlone
    rcases List.mem_append.1 hc with hc | hc
    · exact Parser.not_lone_of_parse hparse (Tree.lone_program_iff.2 ⟨c, hc, hlone⟩)
    · obtain ⟨d, hd, rfl⟩ := List.mem_map.1 hc
      exact Parser.not_lone_of_parse hparse' (Tree.lone_program_iff.2 ⟨d, hd, hlone.of_moved⟩)
  have hstray := haccepts.stray_not_mem
  have hfeed : Glyph.ofBytes (lineFeedByte :: bytes') = .lineFeed :: Glyph.ofBytes bytes' :=
    @Glyph.ofBytes_append [lineFeedByte] (by decide) bytes'
  have horigin : Point.origin.behind (Glyph.ofBytes bytes ++ [.lineFeed]) =
      Point.ofBytes (bytes ++ [lineFeedByte]) := by
    rw [← behind_ofBytes, Glyph.ofBytes_append hstray]
    rfl
  rw [horigin] at hunrolled
  have hparsed := hwhole.recognises.parse_eq hclean
  rw [← hfeed, ← Glyph.ofBytes_append hstray] at hparsed
  refine ⟨_, Program.ofGlyphs_eq_valid.2 ⟨_, hparsed, rfl⟩, ?_, Point.ofBytes_lineFeed bytes, fun n hn => ?_,
    fun n _ => ?_⟩
  · rw [Tree.children_program fun c hc => (hjoined c hc).1, Tree.children_program fun c hc => (hfound c hc).1,
      Tree.children_program fun c hc => (hfound' c hc).1, hunrolled, List.flatMap_append, List.map_flatMap,
      List.flatMap_map]
    exact congrArg (_ ++ ·) (List.flatMap_congr fun c hc =>
      (Tree.found_unrolledAll (fun c hc => (hfound' c hc).1) c hc).nodes_moved _ none none)
  · obtain ⟨_, hcounts⟩ := hinside n hn
    have hbyte : n.label.stop.byte = (bytes.take n.label.stop.byte).length := congrArg Point.byte hcounts
    rw [List.length_take] at hbyte
    exact Label.slice_append (by omega) _
  · have hsplit : bytes ++ lineFeedByte :: bytes' = (bytes ++ [lineFeedByte]) ++ bytes' := by simp
    rw [hsplit]
    exact Label.slice_moved rfl n.label bytes'

/-- The bytes of "vars{asset $a}f($a)//x". -/
def paidFee : List UInt8 :=
  [118, 97, 114, 115, 123, 97, 115, 115, 101, 116, 32, 36, 97, 125, 102, 40, 36, 97, 41, 47, 47,
    120]

/-- The bytes of "/**/g()". -/
def laterFee : List UInt8 := [47, 42, 42, 47, 103, 40, 41]

/-- Behind variables and a line comment that the line feed ends, a comment and a statement. -/
theorem concatenates_laterFee : ∃ root root' whole, Program.ofBytes paidFee = .valid root ∧
    Program.ofBytes laterFee = .valid root' ∧
    (∀ n ∈ root'.children, n.symbol ≠ .nonterminal .varsDeclaration) ∧ ¬markBytes <+: laterFee ∧
    Program.ofBytes (paidFee ++ lineFeedByte :: laterFee) = .valid whole ∧
    Concatenates paidFee laterFee root root' whole := by
  have hvalid : (Program.ofBytes paidFee).root?.isSome = true := by
    decide +kernel
  have hplain : (Program.ofBytes laterFee).root?.any (fun root' => decide
      (∀ n ∈ root'.children, n.symbol ≠ .nonterminal .varsDeclaration)) = true := by
    decide +kernel
  have hunmarked : ¬markBytes <+: laterFee := by decide
  cases hprogram : Program.ofBytes paidFee with
  | invalid furthest =>
    rw [hprogram] at hvalid
    cases hvalid
  | valid root =>
    cases hprogram' : Program.ofBytes laterFee with
    | invalid furthest =>
      rw [hprogram'] at hplain
      cases hplain
    | valid root' =>
      rw [hprogram'] at hplain
      have hnoVars := of_decide_eq_true hplain
      obtain ⟨whole, hwhole, hconcatenates⟩ :=
        concatenates_of_valid paidFee laterFee hprogram hprogram' hnoVars hunmarked
      exact ⟨root, root', whole, rfl, rfl, hnoVars, hunmarked, hwhole, hconcatenates⟩

end Numscript
