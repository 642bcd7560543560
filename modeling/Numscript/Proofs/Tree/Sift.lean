import Numscript.Proofs.Tree.Copy

/-!
# Trees without comments

A tree with all comments below it left out shows as the same form, but for the comments.
-/
namespace Numscript

namespace Form

theorem dropComments_append (a b : List Form) :
    dropComments (a ++ b) = dropComments a ++ dropComments b := by
  simp [Grammar.dropComments_eq]

theorem dropComments_singleton {f : Form} (h : f.isComment = false) :
    dropComments [f] = [f.withoutComments] := by
  simp [dropComments, h]

end Form

namespace Tree

mutual

/-- A tree without the comments below it. -/
def sifted : Tree → Tree
  | .leaf token => .leaf token
  | .node phrase layout children => .node phrase layout (siftedAll children)

/-- Trees without the comments among and below them. -/
def siftedAll : List Tree → List Tree
  | [] => []
  | t :: rest => if t.isComment then siftedAll rest else t.sifted :: siftedAll rest

end

theorem siftedAll_eq (trees : List Tree) :
    siftedAll trees = (trees.filter fun t => !t.isComment).map sifted := by
  induction trees with
  | nil => rfl
  | cons t trees ih =>
    rw [siftedAll, ih]
    cases hc : t.isComment <;> simp [hc]

theorem siftedAll_of_comments {part : List Tree} (h : ∀ c ∈ part, c.isComment = true) :
    siftedAll part = [] := by
  rw [siftedAll_eq, List.map_eq_nil_iff, List.filter_eq_nil_iff]
  simpa using h

theorem siftedAll_append (a b : List Tree) : siftedAll (a ++ b) = siftedAll a ++ siftedAll b := by
  simp [siftedAll_eq]

@[simp] theorem isComment_sifted (t : Tree) : t.sifted.isComment = t.isComment := by
  cases t <;> rfl

@[simp] theorem symbol_sifted (t : Tree) : t.sifted.symbol = t.symbol := by
  cases t <;> rfl

theorem isComment_of_mem_siftedAll {trees : List Tree} {t : Tree} (h : t ∈ siftedAll trees) :
    t.isComment = false := by
  rw [siftedAll_eq] at h
  obtain ⟨s, hs, rfl⟩ := List.mem_map.1 h
  simpa using (List.mem_filter.1 hs).2

mutual

/-- A tree without its comments has the tokens that are no comments. -/
theorem tokens_sifted : (t : Tree) → t.isComment = false →
    t.sifted.tokens = t.tokens.filter fun token => !token.kind.isComment
  | .leaf token, plain => by
    have hkind : token.kind.isComment = false := plain
    rw [sifted, tokens, List.filter_cons_of_pos (by simp [hkind]), List.filter_nil]
  | .node phrase layout children, _ => by
    rw [sifted, tokens, tokens, tokensOfAll_siftedAll children]

theorem tokensOfAll_siftedAll : (trees : List Tree) →
    tokensOfAll (siftedAll trees) = (tokensOfAll trees).filter fun token => !token.kind.isComment
  | [] => rfl
  | t :: rest => by
    rw [siftedAll, tokensOfAll, List.filter_append, ← tokensOfAll_siftedAll rest]
    cases hc : t.isComment with
    | true =>
      cases t with
      | leaf token =>
        have hkind : token.kind.isComment = true := hc
        simp [tokens, hkind]
      | node => cases hc
    | false => rw [if_neg (by simp), tokensOfAll, tokens_sifted t hc]

end

end Tree

/-- A node over other nodes has no text of its own. -/
theorem Node.form_spanning_eq (source : List Glyph) (symbol : Symbol) (field : Option Field)
    (place : Point) (children : List Node) : (Node.spanning symbol field place children).form source =
      .mk symbol field [] (Node.forms source children) := by
  rw [Node.spanning, Node.form]
  cases children with
  | nil => simp [Glyph.between_self]
  | cons => rfl

namespace Tree

mutual

/-- A tree without comments shows as the form of the tree without its comments. -/
theorem forms_sifted (source : List Glyph) (field : Option Field) (name : Option Alias) :
    (t : Tree) → t.isComment = false → Node.forms source (t.sifted.nodes field name) =
      Form.dropComments (Node.forms source (t.nodes field name))
  | .leaf token, plain => by
    have hkind : token.kind.isComment = false := plain
    rw [sifted, nodes_leaf, Node.forms, Node.forms, Form.dropComments_singleton]
    · rfl
    · rw [Terminal.isComment_eq] at hkind
      cases name with
      | none => simpa [Node.form, Form.isComment, Form.symbol] using hkind
      | some a => rfl
  | .node phrase layout children, _ => by
    have hinner := forms_siftedAll source layout 0 children
    rw [sifted, nodes, nodes]
    by_cases hrepetition : phrase.isRepetition = true
    · simpa [hrepetition] using hinner
    · simp only [hrepetition, Bool.false_eq_true, if_false, Node.forms, Node.form_spanning_eq]
      rw [Form.dropComments_singleton, Form.withoutComments, hinner]
      cases name <;> rfl

theorem forms_siftedAll (source : List Glyph) (layout : Layout) (place : Nat) :
    (trees : List Tree) → Node.forms source (nodesFrom layout place (siftedAll trees)) =
      Form.dropComments (Node.forms source (nodesFrom layout place trees))
  | [] => rfl
  | t :: rest => by
    rw [siftedAll, nodesFrom]
    cases hc : t.isComment with
    | true =>
      simp only [if_true, forms_append, Form.dropComments_append]
      rw [forms_siftedAll source layout place rest]
      cases t with
      | leaf token =>
        have hkind : token.kind.isComment = true := hc
        rw [Terminal.isComment_eq] at hkind
        have hcomment : Form.isComment (.mk (.terminal token.kind) none
            (Glyph.between token.start.byte token.stop.byte source) []) = true := by
          simpa [Form.isComment, Form.symbol] using hkind
        simp [nodes_leaf, Node.forms, Node.form, Form.dropComments, hcomment]
      | node => cases hc
    | false =>
      simp only [Bool.false_eq_true, if_false, forms_append, Form.dropComments_append]
      rw [nodesFrom, if_neg (by simp [hc]), forms_append,
        forms_sifted source _ _ t hc, forms_siftedAll source layout (place + 1) rest]

end

/-- The form of a program has the forms of its children. -/
theorem form_program (source : List Glyph) (phrase : Nonterminal) (layout : Layout)
    (children : List Tree) (stop : Point) : ((node phrase layout children).program stop).form source =
      .mk (.nonterminal phrase) none [] (Node.forms source (nodesFrom layout 0 children)) := by
  rw [program, Node.form]
  cases nodesFrom layout 0 children with
  | nil => simp [Glyph.between_self]
  | cons => rfl

theorem form_program_sifted (source : List Glyph) (phrase : Nonterminal) (layout : Layout)
    (children : List Tree) (stop stop' : Point) :
    ((node phrase layout children).sifted.program stop').form source =
      (((node phrase layout children).program stop).form source).withoutComments := by
  rw [sifted, form_program, form_program, Form.withoutComments, forms_siftedAll]

end Tree
end Numscript
