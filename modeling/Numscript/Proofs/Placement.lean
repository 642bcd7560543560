import Numscript.Proofs.Comments
import Numscript.Proofs.Grammar.First
import Numscript.Proofs.Parser.Unique
import Numscript.Proofs.Stretch
import Numscript.Proofs.Tree.Ends
import Numscript.Proofs.Tree.Inside

/-!
# Where comments stand

Every comment of a valid program shows once, without a field. It stands below the innermost node that has
other tokens before and behind it, or below the root if there is none. What the other nodes show does not
depend on the comments.
-/
namespace Numscript

open Grammar (unaliased)
open Numscript.Parser (Accepts)

/-- Two labels show tokens of the same kind with the same text. -/
structure Label.SameWord (text text' : List Glyph) (l l' : Label) : Prop where
  kind : unaliased l'.symbol = unaliased l.symbol
  word : Glyph.between l'.start.byte l'.stop.byte text' = Glyph.between l.start.byte l.stop.byte text

/-- A node has tokens that are no comments before and behind another one. -/
structure Node.Surrounds (n c : Node) : Prop where
  before : ∃ l ∈ n.tokens, l.stop.byte ≤ c.label.start.byte
  behind : ∃ l ∈ n.tokens, c.label.stop.byte ≤ l.start.byte

/-! ### What comments show -/

namespace Tree

mutual

/-- A comment has no field, wherever it shows. -/
theorem field_of_extra : (t : Tree) → (field : Option Field) → (name : Option Alias) →
    (t.isComment = true → field = none) →
    ∀ n ∈ t.nodes field name, n.label.extra = true → n.field = none
  | .leaf token, field, name, hfield, n, hn, extra => by
    obtain rfl := List.mem_singleton.1 hn
    exact hfield extra
  | .node phrase layout children, field, name, _, n, hn, extra => by
    rw [nodes] at hn
    split at hn
    · exact field_of_extra_all layout 0 children n hn extra
    · obtain rfl := List.mem_singleton.1 hn
      cases extra

theorem field_of_extra_all (layout : Layout) (place : Nat) : (trees : List Tree) →
    ∀ n ∈ nodesFrom layout place trees, n.label.extra = true → n.field = none
  | [], n, hn, _ => nomatch hn
  | t :: rest, n, hn, extra => by
    rw [nodesFrom] at hn
    split at hn
    · rcases List.mem_append.1 hn with hn | hn
      · exact field_of_extra t none none (fun _ => rfl) n hn extra
      · exact field_of_extra_all layout place rest n hn extra
    · next plain =>
      rcases List.mem_append.1 hn with hn | hn
      · exact field_of_extra t _ _ (fun h => absurd h plain) n hn extra
      · exact field_of_extra_all layout (place + 1) rest n hn extra

end

theorem Source.isComment_eq {s : Tree} {n : Node} (h : s.Source n) : s.isComment = n.label.extra := by
  cases h <;> rfl

theorem Source.exists_token {text : List Glyph} {s : Tree} {n : Node} (h : s.Source n) (found : s.Found)
    (built : s.Built text) (plain : n.label.extra = false) : ∃ l, l ∈ n.tokens := by
  obtain ⟨⟨token, htoken, hplain⟩, _⟩ := found.ends (h.isComment_eq.trans plain)
  obtain ⟨l, hl, hshows⟩ := exists_leaf_of_token (h.shows built found.inner) (List.mem_of_mem_head? htoken)
  exact ⟨l, List.mem_filter.2 ⟨hl, by rw [hshows.extra, hplain]; rfl⟩⟩

theorem Source.leaf_of_extra {s : Tree} {n : Node} (h : s.Source n) (extra : n.label.extra = true) :
    n.children = [] ∧ n.isLeaf = true ∧ n.leaves = [n.label] := by
  cases h with
  | @token token symbol field shows =>
    cases symbol with
    | nonterminal => cases shows
    | _ => exact ⟨rfl, rfl, rfl⟩
  | phrase => cases extra

end Tree

namespace Node

/-- A node with plain ends has tokens before and behind each of its comments. -/
theorem surrounds_of_plainEnds {p c : Node} (order : Label.InOrder p.leaves) (hc : c ∈ p.children)
    (extra : c.label.extra = true) (leaves : c.leaves = [c.label]) (ends : PlainEnds p.children)
    (below : ∀ d ∈ p.children, d.label.extra = false → ∃ l, l ∈ d.tokens) : p.Surrounds c := by
  obtain ⟨label, children⟩ := p
  change c ∈ children at hc
  change ∀ d ∈ children, _ at below
  have hleaves : (mk label children).leaves = children.flatMap Node.leaves := by
    rw [@leaves_of_ne_nil label children ends.inhabited, leavesOfAll_eq]
  obtain ⟨first, last, rfl⟩ := List.append_of_mem hc
  have hbefore : ∃ f ∈ first, f.label.extra = false := by
    cases first with
    | nil => exact absurd extra (by simp [ends.first c rfl])
    | cons f first => exact ⟨f, List.mem_cons_self, ends.first f rfl⟩
  have hbehind : ∃ g ∈ last, g.label.extra = false := by
    cases hlast : last.getLast? with
    | none =>
      refine absurd extra ?_
      rw [ends.last c (by rw [List.getLast?_eq_none_iff.1 hlast]; exact List.getLast?_concat ..)]
      exact Bool.false_ne_true
    | some g =>
      refine ⟨g, List.mem_of_getLast? hlast, ends.last g ?_⟩
      rw [Option.mem_def, Node.children, List.getLast?_append, List.getLast?_cons, hlast]
      rfl
  have happart := order.apart
  rw [hleaves, List.flatMap_append, List.flatMap_cons, leaves] at happart
  rw [List.pairwise_append, List.singleton_append, List.pairwise_cons] at happart
  obtain ⟨_, ⟨hafter, _⟩, hfront⟩ := happart
  have hmem {d : Node} (hd : d ∈ first ++ c :: last) {l : Label} (hl : l ∈ d.tokens) :
      l ∈ (mk label (first ++ c :: last)).tokens := by
    obtain ⟨hl, hplain⟩ := List.mem_filter.1 hl
    refine List.mem_filter.2 ⟨?_, hplain⟩
    rw [hleaves]
    exact List.mem_flatMap.2 ⟨d, hd, hl⟩
  constructor
  · obtain ⟨f, hf, hplain⟩ := hbefore
    obtain ⟨l, hl⟩ := below f (by simp [hf]) hplain
    exact ⟨l, hmem (by simp [hf]) hl, hfront l (List.mem_flatMap.2 ⟨f, hf, List.mem_of_mem_filter hl⟩)
      c.label List.mem_cons_self⟩
  · obtain ⟨g, hg, hplain⟩ := hbehind
    obtain ⟨l, hl⟩ := below g (by simp [hg]) hplain
    exact ⟨l, hmem (by simp [hg]) hl, hafter l (List.mem_flatMap.2 ⟨g, hg, List.mem_of_mem_filter hl⟩)⟩

theorem Surrounds.mono {root n c : Node} (h : n.Surrounds c) (hn : n ∈ root :: root.inside) :
    root.Surrounds c := by
  rcases List.mem_cons.1 hn with rfl | hn
  · exact h
  · have hsubset : n.tokens ⊆ root.tokens := (leaves_isInfix root hn).sublist.filter _ |>.subset
    obtain ⟨⟨l, hl, hbefore⟩, ⟨l', hl', hbehind⟩⟩ := h
    exact ⟨⟨l, hsubset hl, hbefore⟩, ⟨l', hsubset hl', hbehind⟩⟩

/-- A leaf that a node surrounds stands below it. -/
theorem Surrounds.mem_inside {root n c : Node} (h : n.Surrounds c) (order : Label.InOrder root.leaves)
    (hn : n ∈ root :: root.inside) (hc : c ∈ root.inside) (extra : c.label.extra = true)
    (none : c.children = []) (leaves : c.leaves = [c.label]) : c ∈ n.inside := by
  obtain ⟨⟨before, hbefore, hfirst⟩, ⟨behind, hbehind, hlast⟩⟩ := h
  have hinfix : n.leaves <:+: root.leaves := by
    rcases List.mem_cons.1 hn with rfl | hn
    · exact List.infix_rfl
    · exact leaves_isInfix root hn
  have hlabel : c.label ∈ root.leaves :=
    (leaves_isInfix root hc).subset (leaves ▸ List.mem_cons_self)
  have hmem := mem_of_infix order hinfix (List.mem_of_mem_filter hbefore) (List.mem_of_mem_filter hbehind)
    hlabel hfirst hlast
  rw [leaves_eq_filter] at hmem
  obtain ⟨d, hd, hsame⟩ := List.mem_map.1 hmem
  obtain ⟨hd, hleaf⟩ := List.mem_filter.1 hd
  have hdc : d = c := by
    obtain ⟨label, children⟩ := d
    obtain ⟨label', children'⟩ := c
    obtain rfl : label = label' := hsame
    obtain rfl : children' = [] := none
    rw [isLeaf, Bool.and_eq_true] at hleaf
    obtain rfl : children = [] := List.isEmpty_iff.1 hleaf.1
    rfl
  rcases List.mem_cons.1 hd with rfl | hd
  · obtain ⟨_, hplain⟩ := List.mem_filter.1 hbefore
    rw [hdc, Node.tokens, leaves] at hbefore
    simp [extra] at hbefore
  · rwa [← hdc]

end Node

/-- How the comments of a program are placed in its tree. -/
structure Placed (bytes : List UInt8) (root : Node) : Prop where
  /-- The nodes that are flagged show the comments of the accepting run, each once and in order. -/
  once : ∃ tokens tree, Parser.parse (Glyph.ofBytes bytes) = .valid tree ∧
    Accepts (Glyph.ofBytes bytes) tokens tree ∧ root = tree.program (Point.ofBytes bytes) ∧
    List.Forall₂ Label.Shows (tokens.filter fun t => t.kind.isComment)
      (((root :: root.inside).filter fun n => n.label.extra).map Node.label)
  /-- A node is flagged if it shows a comment. -/
  flagged : ∀ n ∈ root :: root.inside, n.label.extra = n.isComment
  /-- A comment has no field and no children. -/
  bare : ∀ n ∈ root.inside, n.label.extra = true → n.field = none ∧ n.children = []
  /-- No node but the root begins or ends with a comment. -/
  ends : ∀ n ∈ root.inside, (∀ c ∈ n.children.head?, c.label.extra = false) ∧
    ∀ c ∈ n.children.getLast?, c.label.extra = false
  /-- A comment is a child of the innermost node that surrounds it, or of the root if none does. -/
  innermost : ∀ p ∈ root :: root.inside, ∀ c ∈ p.children, c.label.extra = true →
    p.Surrounds c ∧ (∀ n ∈ root :: root.inside, n.Surrounds c → p = n ∨ p ∈ n.inside) ∨
      p = root ∧ ∀ n ∈ root :: root.inside, ¬n.Surrounds c
  /-- A program with the same tokens has the same tree, but for the comments. -/
  unchanged : ∀ (bytes' : List UInt8) (root' : Node), Program.ofBytes bytes' = .valid root' →
    List.Forall₂ (Label.SameWord (Glyph.ofBytes bytes) (Glyph.ofBytes bytes')) root.tokens root'.tokens →
    (root'.form (Glyph.ofBytes bytes')).withoutComments =
      (root.form (Glyph.ofBytes bytes)).withoutComments

/-- The comments of a valid program have no field. -/
theorem field_of_extra_of_valid (bytes : List UInt8) {root : Node}
    (h : Program.ofBytes bytes = .valid root) :
    ∀ n ∈ root.inside, n.label.extra = true → n.field = none := by
  intro n hn extra
  obtain ⟨p, hp, hchild⟩ := List.mem_flatMap.1 (root.inside_perm_children.mem_iff.1 hn)
  rcases List.mem_cons.1 hp with rfl | hp
  · obtain ⟨_, tree, _, haccepts, rfl, _⟩ := exists_tokens_of_valid bytes h
    obtain ⟨_, layout, children, rfl⟩ := Parser.built_of_recognises haccepts.recognises
    exact Tree.field_of_extra_all layout 0 children n hchild extra
  · obtain ⟨s, hsource, _⟩ := exists_source_of_valid bytes h p hp
    cases hsource with
    | token => cases hchild
    | @phrase _ layout children => exact Tree.field_of_extra_all layout 0 children n hchild extra

/-- The nodes that are flagged are leaves. -/
theorem filter_extra_of_valid (bytes : List UInt8) {root : Node}
    (h : Program.ofBytes bytes = .valid root) (plain : root.label.extra = false) :
    ((root :: root.inside).filter fun n => n.label.extra).map Node.label =
      root.leaves.filter fun l => l.extra := by
  rw [Node.leaves_eq_filter, List.filter_map, List.filter_filter]
  refine congrArg (List.map _) (List.filter_congr fun n hn => ?_)
  cases hextra : n.label.extra with
  | false => simp [hextra]
  | true =>
    rcases List.mem_cons.1 hn with rfl | hn
    · rw [plain] at hextra
      cases hextra
    · obtain ⟨s, hsource, _⟩ := exists_source_of_valid bytes h n hn
      simp [hextra, (hsource.leaf_of_extra hextra).2.1]

/-- The tokens of two accepting runs that show as the same words are copies, but for the comments. -/
theorem copies_of_sameWord {text text' : List Glyph} {tokens tokens' : List Token} {labels labels' : List Label}
    (shows : List.Forall₂ Label.Shows tokens labels) (shows' : List.Forall₂ Label.Shows tokens' labels')
    (same : List.Forall₂ (Label.SameWord text text') labels labels') :
    List.Forall₂ (Token.Copies text text') tokens tokens' := by
  induction shows generalizing tokens' labels' with
  | nil =>
    cases same
    cases shows'
    exact .nil
  | cons hshows _ ih =>
    cases same with
    | cons hsame hrest =>
      cases shows' with
      | cons hshows' hrest' =>
        refine .cons ⟨?_, ?_⟩ (ih hrest' hrest)
        · exact Symbol.terminal.inj (hshows'.symbol.symm.trans (hsame.kind.trans hshows.symbol))
        · rw [← hshows.start, ← hshows.stop, ← hshows'.start, ← hshows'.stop]
          exact hsame.word

/-- A program with the same tokens has the same tree, but for the comments. -/
theorem form_eq_of_sameWord {bytes bytes' : List UInt8} {root root' : Node}
    (h : Program.ofBytes bytes = .valid root) (h' : Program.ofBytes bytes' = .valid root')
    (same : List.Forall₂ (Label.SameWord (Glyph.ofBytes bytes) (Glyph.ofBytes bytes')) root.tokens
      root'.tokens) : (root'.form (Glyph.ofBytes bytes')).withoutComments =
        (root.form (Glyph.ofBytes bytes)).withoutComments := by
  obtain ⟨tokens, tree, hparse, haccepts, rfl, hshows⟩ := exists_tokens_of_valid bytes h
  obtain ⟨tokens', tree', hparse', haccepts', rfl, hshows'⟩ := exists_tokens_of_valid bytes' h'
  obtain ⟨_, layout, children, rfl⟩ := Parser.built_of_recognises haccepts.recognises
  obtain ⟨_, layout', children', rfl⟩ := Parser.built_of_recognises haccepts'.recognises
  have hcopies := copies_of_sameWord (forall₂_filter hshows).2 (forall₂_filter hshows').2 same
  rw [← haccepts.tokens_eq, ← haccepts'.tokens_eq, ← Tree.tokens_sifted _ rfl,
    ← Tree.tokens_sifted _ rfl] at hcopies
  have hcopy := Parser.copy_sifted_of_tokens hparse hparse' hcopies
  rw [← Tree.form_program_sifted _ _ _ _ _ .origin, ← Tree.form_program_sifted _ _ _ _ _ .origin]
  exact hcopy.form_program _ _

/-- Every comment of a valid program shows once, where the nodes around it have to hold it, and the other
nodes do not depend on it. -/
theorem placed_of_valid (bytes : List UInt8) {root : Node} (h : Program.ofBytes bytes = .valid root) :
    Placed bytes root := by
  obtain ⟨hsymbol, hextra⟩ := root_of_valid bytes h
  have hplain : root.isLeaf = false := by rw [Node.isLeaf, hsymbol, Bool.and_false]
  have hflagged : ∀ n ∈ root :: root.inside, n.label.extra = n.isComment := fun n hn => by
    rcases List.mem_cons.1 hn with rfl | hn
    · rw [hextra, Node.isComment, hsymbol]
      rfl
    · obtain ⟨s, hsource, _⟩ := exists_source_of_valid bytes h n hn
      exact hsource.extra_eq
  have horder := (leaves_of_valid bytes h).1
  obtain ⟨tokens, tree, hparse, haccepts, hroot, hshows⟩ := exists_tokens_of_valid bytes h
  refine ⟨⟨tokens, tree, hparse, haccepts, hroot, ?_⟩, hflagged, fun n hn extra => ?_, fun n hn => ?_,
    fun p hp c hc extra => ?_, fun bytes' root' h' => form_eq_of_sameWord h h'⟩
  · rw [filter_extra_of_valid bytes h hextra]
    exact (forall₂_filter hshows).1
  · obtain ⟨s, hsource, _⟩ := exists_source_of_valid bytes h n hn
    exact ⟨field_of_extra_of_valid bytes h n hn extra, (hsource.leaf_of_extra extra).1⟩
  · rcases plainEnds_of_valid bytes h n hn with ⟨_, hnone⟩ | ⟨_, hends⟩
    · rw [hnone]
      exact ⟨by simp, by simp⟩
    · exact ⟨hends.first, hends.last⟩
  · have he := Node.mem_edges.2 ⟨hp, hc⟩
    have hin := Node.mem_inside_of_mem_edges he
    obtain ⟨s, hsource, _⟩ := exists_source_of_valid bytes h c hin
    obtain ⟨hnone, hleaf, hleaves⟩ := hsource.leaf_of_extra extra
    have hinner : ∀ n ∈ root :: root.inside, n.Surrounds c → p = n ∨ p ∈ n.inside := by
      intro n hn hsurrounds
      have hmem := hsurrounds.mem_inside horder hn hin extra hnone hleaves
      obtain ⟨q, hq, hchild⟩ := List.mem_flatMap.1 (n.inside_perm_children.mem_iff.1 hmem)
      have hq' : q ∈ root :: root.inside := by
        rcases List.mem_cons.1 hq with rfl | hq
        · exact hn
        · rcases List.mem_cons.1 hn with rfl | hn
          · exact List.mem_cons_of_mem _ hq
          · exact List.mem_cons_of_mem _ (Node.inside_trans root hn hq)
      obtain rfl := Node.parent_eq hplain horder he (Node.mem_edges.2 ⟨hq', hchild⟩) hleaf
      exact List.mem_cons.1 hq
    by_cases hsurrounds : p.Surrounds c
    · exact .inl ⟨hsurrounds, hinner⟩
    · rcases List.mem_cons.1 hp with rfl | hp
      · exact .inr ⟨rfl, fun n hn hn' => hsurrounds (hn'.mono hn)⟩
      · obtain ⟨s, hsource, _⟩ := exists_source_of_valid bytes h p hp
        rcases plainEnds_of_valid bytes h p hp with ⟨_, hnil⟩ | ⟨_, hends⟩
        · rw [hnil] at hc
          cases hc
        · refine absurd ?_ hsurrounds
          refine Node.surrounds_of_plainEnds (horder.sublist (Node.leaves_isInfix root hp).sublist) hc extra
            hleaves hends fun d hd hplain => ?_
          obtain ⟨t, hsource, hfound, hbuilt⟩ := exists_source_of_valid bytes h d
            (Node.mem_inside_of_mem_edges (Node.mem_edges.2 ⟨List.mem_cons_of_mem _ hp, hd⟩))
          exact hsource.exists_token hfound hbuilt hplain

/-- A program with comments before, inside of and behind a statement. -/
def strewnSend : List UInt8 :=
  ("// 1\nsend /* 2 */ $m ( source = @a /* 3 */ : /* 4 */ $b // 5\n" ++
    "destination = \x7b /* 6 */ remaining /* 7 */ kept \x7d ) /* 8 */").toList.map
      fun c => c.toNat.toUInt8

theorem placed_strewnSend : ∃ root : Node,
    Program.ofBytes strewnSend = .valid root ∧ Placed strewnSend root := by
  have hvalid : (Program.ofBytes strewnSend).root?.isSome = true := by decide +kernel
  cases hprogram : Program.ofBytes strewnSend with
  | invalid furthest =>
    rw [hprogram] at hvalid
    cases hvalid
  | valid root => exact ⟨root, rfl, placed_of_valid strewnSend hprogram⟩

end Numscript
