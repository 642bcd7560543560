import Numscript.Proofs.Layout
import Numscript.Proofs.Text.Slice
import Numscript.Proofs.Tree.Mirror
import Numscript.Proofs.Tree.Numbering
import Numscript.Proofs.Tree.Structural

/-!
# Navigation

Moving about in the stored tree of a program, with its repetitions and its roles by place, is moving about in the
tree that shows, and that is moving about in its outline: wherever some moves lead to, the current node is a row of
the outline, and every further move leads to the row that the depths and labels of the rows tell, or it fails where
there is none and changes nothing. From a child the way back is to the parent, and siblings follow
one another in both directions. The text of a node is what the bytes of its span are read as.
-/
namespace Numscript

/-- A position shows a row of an outline, and moves from it as the rows tell. -/
structure Position.Follows (rows : List Row) (p : Position) : Prop where
  /-- The current node is a row. -/
  row : rows[p.index]? = some ⟨p.trail.length, p.node.label⟩
  /-- Its children are the rows one level deeper under it. -/
  children : (Row.children rows p.trail.length p.index).map (·.1.label) = p.node.children.map Node.label
  /-- A move leads to the row that the rows tell, and fails if there is none. -/
  moves : ∀ m, (p.go? m).map Position.index = Row.target? rows p.index m
  /-- There are as many children to move to as the node has. -/
  childAt : ∀ i, (∃ q, p.go? (.childAt i) = some q) ↔ i.toNat < p.node.children.length
  namedChildAt : ∀ i, (∃ q, p.go? (.namedChildAt i) = some q) ↔ i.toNat < p.node.namedChildren.length
  /-- A move that fails changes nothing. -/
  stuck : ∀ m, p.go? m = none → p.go m = p

/-- The moves from a position can be taken back. -/
structure Position.Returns (p : Position) : Prop where
  childAt : ∀ i q, p.go? (.childAt i) = some q → q.go? .parent = some p
  namedChildAt : ∀ i q, p.go? (.namedChildAt i) = some q → q.go? .parent = some p
  field : ∀ name q, p.go? (.field name) = some q → q.go? .parent = some p
  next : ∀ q, p.go? .next = some q → q.go? .prev = some p
  prev : ∀ q, p.go? .prev = some q → q.go? .next = some p
  /-- Named siblings follow one another. -/
  nextNamed : p.node.isNamed = true → ∀ q, p.go? .nextNamed = some q → q.go? .prevNamed = some p
  prevNamed : p.node.isNamed = true → ∀ q, p.go? .prevNamed = some q → q.go? .nextNamed = some p

namespace Position

theorem returns (p : Position) : p.Returns where
  childAt _ _ := parent_child
  namedChildAt _ _ := parent_child
  field name q h := by
    obtain ⟨f, _, hf⟩ := Option.bind_eq_some_iff.1 h
    exact parent_child hf
  next _ := prev_next rfl
  prev _ := next_prev rfl
  nextNamed hp _ := prev_next hp
  prevNamed hp _ := next_prev hp

theorem follows (p : Position) : p.Follows p.root.outline where
  row := outline_index p
  children := by rw [children_index, Node.map_tops]
  moves := index_go? p
  childAt i := by
    rw [go?, exists_child_iff, List.filter_true]
  namedChildAt i := exists_child_iff
  stuck m h := by rw [go, h, Option.getD_none]

theorem node_mem_root (p : Position) : p.node ∈ p.root :: p.root.inside := by
  obtain ⟨node, trail⟩ := p
  induction trail generalizing node with
  | nil => exact List.mem_cons_self
  | cons s trail ih =>
    have hparent := ih (.mk s.parent (s.before.reverse ++ node :: s.after))
    have hnode : node ∈ (Node.mk s.parent (s.before.reverse ++ node :: s.after)).inside :=
      Node.mem_inside_of_mem_children (by simp [Node.children])
    refine List.mem_cons_of_mem _ ?_
    rcases List.mem_cons.1 hparent with hroot | hinside
    · exact hroot ▸ hnode
    · exact Node.inside_trans _ hinside hnode

end Position

section
variable {bytes : List UInt8} {root : Node}

/-- The stored tree of a program shows as the program. -/
theorem exists_shows_of_valid (h : Program.ofBytes bytes = .valid root) : ∃ tree,
    Parser.parse (Glyph.ofBytes bytes) = .valid tree ∧ root = tree.program (Point.ofBytes bytes) ∧
      (⟨tree, []⟩ : Spot).Shows := by
  obtain ⟨tokens, tree, hparse, haccepts, rfl, _⟩ := exists_tokens_of_valid bytes h
  obtain ⟨hbuilt, layout, children, rfl⟩ := Parser.built_of_recognises haccepts.recognises
  exact ⟨_, hparse, rfl, ⟨hbuilt.steady, rfl⟩, rfl⟩

theorem places_of_leaf (h : Program.ofBytes bytes = .valid root) : ∀ l ∈ root.leaves,
    l.start.IsPlace (Glyph.ofBytes bytes) ∧ l.stop.IsPlace (Glyph.ofBytes bytes) := by
  intro l hl
  obtain ⟨tokens, tree, _, haccepts, _, hshows⟩ := exists_tokens_of_valid bytes h
  obtain ⟨t, ht, hshow⟩ := exists_token_of_leaf hshows hl
  obtain ⟨before, word, after, split, _, start, stop⟩ := haccepts.spans t ht
  rw [hshow.start, hshow.stop]
  exact ⟨⟨before, _, split.trans (List.append_assoc ..), start⟩, ⟨_, after, split, stop⟩⟩

/-- So are the ends of a node below the root, which spans from leaf to leaf. -/
theorem places_inside (h : Program.ofBytes bytes = .valid root) : ∀ n ∈ root.inside,
    n.label.start.IsPlace (Glyph.ofBytes bytes) ∧ n.label.stop.IsPlace (Glyph.ofBytes bytes) ∧
      n.label.start.byte ≤ n.label.stop.byte := by
  intro n hn
  obtain ⟨hspanned, hsublist⟩ := spanned_inside_of_valid bytes h n hn
  obtain ⟨⟨first, hfirst, hstart⟩, ⟨last, hlast, hstop⟩⟩ := hspanned.ends
  have hleaf := List.mem_of_mem_head? hfirst
  have horder := (leaves_of_valid bytes h).1.sublist hsublist
  have hroom := horder.room first hleaf
  have hbound := (horder.bounds hfirst hlast hleaf).2
  rw [hstart, hstop]
  exact ⟨(places_of_leaf h first (hsublist.subset hleaf)).1,
    (places_of_leaf h last (hsublist.subset (List.mem_of_mem_getLast? hlast))).2, by omega⟩

/-- The ends of a node are places of the text, in their order. -/
theorem places_of_valid (h : Program.ofBytes bytes = .valid root) : ∀ n ∈ root :: root.inside,
    n.label.start.IsPlace (Glyph.ofBytes bytes) ∧ n.label.stop.IsPlace (Glyph.ofBytes bytes) ∧
      n.label.start.byte ≤ n.label.stop.byte := by
  intro n hn
  rcases List.mem_cons.1 hn with rfl | hn
  · obtain ⟨hstart, hstop⟩ := ends_of_valid bytes h
    have hend : (Point.ofBytes bytes).IsPlace (Glyph.ofBytes bytes) :=
      ⟨_, [], (List.append_nil _).symm, (behind_ofBytes bytes).symm⟩
    cases hfirst : n.children.head? with
    | none =>
      rw [hfirst, Option.map_none, Option.getD_none] at hstart
      rw [hstart, hstop]
      exact ⟨hend, hend, Nat.le_refl _⟩
    | some c =>
      have hc := List.mem_of_mem_head? hfirst
      obtain ⟨hplace, _, hle⟩ := places_inside h c (Node.mem_inside_of_mem_children hc)
      have hwithin := (within_root_of_valid bytes h c hc).2
      rw [hfirst, Option.map_some, Option.getD_some] at hstart
      rw [hstop] at hwithin ⊢
      rw [hstart]
      exact ⟨hplace, hend, by omega⟩
  · exact places_inside h n hn

end

/--
Wherever some moves lead to in the stored tree of a program, they lead to the node that the same moves lead to in the
tree that shows, and further moves, children and names are the same there. The number of the row is the one that the
moves lead to in the outline. The current node shows in that row and moves as the rows tell, the moves from it can be
taken back, and its text is what the bytes of its span are read as.
-/
theorem moves_follow_outline (bytes : List UInt8) (moves : List Move) {root : Node}
    (h : Program.ofBytes bytes = .valid root) :
    (∃ tree, Parser.parse (Glyph.ofBytes bytes) = .valid tree ∧ root = tree.program (Point.ofBytes bytes) ∧
      (Spot.along tree moves).Mirrors (Point.ofBytes bytes) (Position.along root moves)) ∧
    (Position.along root moves).index = Row.along root.outline moves ∧
      (Position.along root moves).Follows root.outline ∧ (Position.along root moves).Returns ∧
      Glyph.between (Position.along root moves).node.label.start.byte
          (Position.along root moves).node.label.stop.byte (Glyph.ofBytes bytes) =
        Glyph.ofBytes ((Position.along root moves).node.label.slice bytes) := by
  obtain ⟨hroot, hindex⟩ := Position.index_along root moves
  have hmem := (Position.along root moves).node_mem_root
  have hfollows := (Position.along root moves).follows
  rw [hroot] at hmem hfollows
  obtain ⟨hstart, hstop, hle⟩ := places_of_valid h _ hmem
  have hmirrors : ∃ tree, Parser.parse (Glyph.ofBytes bytes) = .valid tree ∧
      root = tree.program (Point.ofBytes bytes) ∧
      (Spot.along tree moves).Mirrors (Point.ofBytes bytes) (Position.along root moves) := by
    obtain ⟨tree, hparse, rfl, hshows⟩ := exists_shows_of_valid h
    obtain ⟨halong, hposition⟩ := Spot.along_position (E := Point.ofBytes bytes) hshows moves
    exact ⟨tree, hparse, rfl, hposition ▸ halong.mirrors⟩
  exact ⟨hmirrors, hindex, hfollows, Position.returns _, Glyph.between_of_places hstart hstop hle⟩

/-- A capped source, and a destination with four shares. Comments stand between the parts and between the shares. -/
def cappedSource : List UInt8 :=
  ("send [USD 1] (source = max [USD 10] from @a\n/* half */ destination = " ++
    "\x7b 1/4 to @b 1/4 to @c // then\n 1/4 to @d 1/4 to @e \x7d)").toList.map fun c => c.toNat.toUInt8

/--
Down to the cap, there and back among its siblings, up again, past the comment and down to the third share, along
the shares over the other comment to the second one, and a move that fails.
-/
def aroundCap : List Move :=
  [.child 0, .child 0, .namedChild 1, .child 0, .field "cap", .next, .prev, .nextNamed, .prevNamed, .parent,
    .parent, .nextNamed, .next, .nextNamed, .child 0, .namedChild 3, .next, .prevNamed, .prev, .prevNamed, .child 7]

/-- The second share stands five levels below the program, and under four repetitions in the stored tree. -/
theorem moves_follow_aroundCap : ∃ tree root, Parser.parse (Glyph.ofBytes cappedSource) = .valid tree ∧
    Program.ofBytes cappedSource = .valid root ∧ (Spot.along tree aroundCap).trail.length = 9 ∧
    (Position.along root aroundCap).trail.length = 5 ∧
    (Spot.along tree aroundCap).Mirrors (Point.ofBytes cappedSource) (Position.along root aroundCap) ∧
    Row.along root.outline aroundCap = 67 ∧ (Position.along root aroundCap).index = 67 ∧
    (Position.along root aroundCap).Follows root.outline ∧ (Position.along root aroundCap).Returns ∧
    Glyph.between (Position.along root aroundCap).node.label.start.byte
        (Position.along root aroundCap).node.label.stop.byte (Glyph.ofBytes cappedSource) =
      Glyph.ofBytes ((Position.along root aroundCap).node.label.slice cappedSource) := by
  have hdepth : (Parser.parse (Glyph.ofBytes cappedSource)).tree?.map (fun tree =>
      ((Spot.along tree aroundCap).trail.length,
        (Position.along (tree.program (Point.ofBytes cappedSource)) aroundCap).trail.length,
        Row.along (tree.program (Point.ofBytes cappedSource)).outline aroundCap)) = some (9, 5, 67) := by
    decide +kernel
  cases hparse : Parser.parse (Glyph.ofBytes cappedSource) with
  | invalid furthest =>
    rw [hparse] at hdepth
    cases hdepth
  | valid tree =>
    rw [hparse] at hdepth
    simp only [Parser.Result.tree?, Option.map_some, Option.some.injEq, Prod.mk.injEq] at hdepth
    obtain ⟨hstored, hshown, hrow⟩ := hdepth
    have hvalid : Program.ofBytes cappedSource = .valid (tree.program (Point.ofBytes cappedSource)) :=
      Program.ofGlyphs_eq_valid.2 ⟨tree, hparse, by rw [behind_ofBytes]⟩
    obtain ⟨⟨tree', hparse', -, hmirrors⟩, hindex, hfollows, hreturns, htext⟩ :=
      moves_follow_outline cappedSource aroundCap hvalid
    cases hparse.symm.trans hparse'
    exact ⟨tree, _, rfl, hvalid, hstored, hshown, hmirrors, hrow, hindex.trans hrow, hfollows, hreturns, htext⟩

end Numscript
