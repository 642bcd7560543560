import Numscript.Proofs.Grammar.First
import Numscript.Proofs.Parser.Found
import Numscript.Proofs.Parser.Preferred

/-!
# Destinations in braces

A destination in braces is filled in order exactly if its clauses are any number of capped ones and then a
single one that takes what remains. In all other cases it is an allotment. So a single remaining clause is
never an allotment, and several ones, or one beside a portion, always are.
-/
namespace Numscript

open Automaton (Reduction rolesOf)
open Grammar (Item Rule productions rule sameItem unaliased first)

/-- The clauses of a destination in braces: up to an amount, what remains, or a portion. -/
inductive Clause where
  | max | remaining | portion
  deriving DecidableEq, Repr

namespace Clause

/-- The clause that a token begins. The braces begin none, and neither does what is behind `remaining`. -/
def begunBy : Terminal → Option Clause
  | .kwMax => some .max
  | .kwRemaining => some .remaining
  | .lbrace | .rbrace | .kwTo | .destinationKept => none
  | _ => some .portion

/-- Any number of capped clauses, and then a single one that takes what remains. -/
def InOrder (clauses : List Clause) : Prop :=
  ∃ count, clauses = List.replicate count .max ++ [.remaining]

/-- The clause that a child of a destination begins that is filled in order. -/
def ofSymbol : Symbol → Option Clause
  | .terminal k => begunBy k
  | .nonterminal .destinationInOrderClause => some .max
  | _ => none

theorem begunBy_inOrderClause : ∀ k ∈ Terminal.all,
    (first .destinationInOrderClause).testBit k.index = true → begunBy k = some .max := by
  decide +kernel

theorem begunBy_keptOrDestination : ∀ k ∈ Terminal.all,
    (first .keptOrDestination).testBit k.index = true → begunBy k = none := by
  decide +kernel

theorem begunBy_allotmentClause : ∀ k ∈ Terminal.all,
    (first .allotmentClauseDest).testBit k.index = true →
      begunBy k = some .portion ∨ k = .kwRemaining := by
  decide +kernel

end Clause

/-- The clause that a child of a destination in braces begins. -/
def Node.clause? (n : Node) : Option Clause := n.first?.bind Clause.begunBy

/-- The clauses of a destination in braces. -/
def Node.clauses (n : Node) : List Clause := n.structural.filterMap Node.clause?

/-- How the destinations in braces are read. -/
structure BracesByClauses (root : Node) : Prop where
  /-- A destination that begins with a brace is filled in order exactly if its clauses are capped ones and
  then a single one that takes what remains, and otherwise it is an allotment. -/
  braced : ∀ n ∈ root.inside, n.symbol = .nonterminal .destination → ∀ d ∈ n.structural,
    d.first? = some .lbrace →
      (d.symbol = .nonterminal .destInorder ↔ Clause.InOrder d.clauses) ∧
        (d.symbol = .nonterminal .destAllotment ↔ ¬Clause.InOrder d.clauses)
  /-- No allotment has a single clause that takes what remains. -/
  shares : ∀ d ∈ root.inside, d.symbol = .nonterminal .destAllotment → d.clauses ≠ [.remaining]
  /-- Several remaining clauses, or one beside a portion, make an allotment. -/
  several : ∀ n ∈ root.inside, n.symbol = .nonterminal .destination → ∀ d ∈ n.structural,
    d.first? = some .lbrace → 2 ≤ d.clauses.count .remaining ∨
      (.remaining ∈ d.clauses ∧ .portion ∈ d.clauses) → d.symbol = .nonterminal .destAllotment

namespace Grammar

theorem fits_phrase_iff {n : Nonterminal} {w : List Item} :
    (phrase n).Fits sameItem w ↔ w = [⟨.nonterminal n, none⟩] := by
  constructor
  · intro h
    cases h with
    | one h => rw [← sameItem_iff.1 h]
  · rintro rfl
    exact .one (sameItem_iff.2 rfl)

theorem fits_token_iff {t : Terminal} {w : List Item} :
    (token t).Fits sameItem w ↔ w = [⟨.terminal t, none⟩] := by
  constructor
  · intro h
    cases h with
    | one h => rw [← sameItem_iff.1 h]
  · rintro rfl
    exact .one (sameItem_iff.2 rfl)

theorem replicate_of_fits_many {n : Nonterminal} {w : List Item}
    (h : (Regular.many (phrase n)).Fits sameItem w) :
    ∃ count, w = List.replicate count ⟨.nonterminal n, none⟩ := by
  generalize hr : Regular.many (phrase n) = r at h
  induction h with
  | manyNil => exact ⟨0, rfl⟩
  | manyCons hr' _ _ ih =>
    obtain rfl := Regular.many.inj hr
    obtain ⟨count, rfl⟩ := ih rfl
    rw [fits_phrase_iff] at hr'
    exact ⟨count + 1, by rw [hr', List.replicate_succ]; rfl⟩
  | _ => cases hr

/-- The children of a destination that is filled in order. -/
theorem items_of_inOrder {w : List Item} (h : (rule .destInorder).Fits sameItem w) : ∃ count,
    w = ⟨.terminal .lbrace, none⟩ ::
      (List.replicate count ⟨.nonterminal .destinationInOrderClause, none⟩ ++
        [⟨.terminal .kwRemaining, none⟩, ⟨.nonterminal .keptOrDestination, none⟩,
          ⟨.terminal .rbrace, none⟩]) := by
  simp only [rule, inOrder, List.nil_append, Regular.sequence, Regular.fits_seq_iff, fits_token_iff,
    fits_phrase_iff] at h
  obtain ⟨_, _, rfl, rfl, clauses, _, rfl, hclauses, _, _, rfl, rfl, _, _, rfl, rfl, rfl⟩ := h
  obtain ⟨count, rfl⟩ := replicate_of_fits_many hclauses
  exact ⟨count, rfl⟩

/-- The children of an allotment. -/
theorem items_of_allotment {w : List Item} (h : (rule .destAllotment).Fits sameItem w) : ∃ count,
    w = ⟨.terminal .lbrace, none⟩ ::
      (List.replicate (count + 1) ⟨.nonterminal .allotmentClauseDest, none⟩ ++
        [⟨.terminal .rbrace, none⟩]) := by
  simp only [rule, Regular.oneOrMore, Regular.sequence, Regular.fits_seq_iff, fits_token_iff,
    fits_phrase_iff] at h
  obtain ⟨_, _, rfl, rfl, _, _, rfl, ⟨_, clauses, rfl, rfl, hclauses⟩, rfl⟩ := h
  obtain ⟨count, rfl⟩ := replicate_of_fits_many hclauses
  exact ⟨count, rfl⟩

end Grammar

namespace Tree

theorem Source.exists_child {text : List Glyph} {t : Tree} {d : Node} (h : t.Source d)
    (built : t.Built text) {c : Node} (hc : c ∈ d.children) : ∃ s, Within s t ∧ s.Source c := by
  cases h with
  | token => cases hc
  | phrase =>
    refine built.exists_source.2 _ _ _ rfl c ?_
    rw [Node.insideAll_eq]
    exact List.mem_flatMap.2 ⟨c, hc, List.mem_cons_self⟩

/-- A child that is a token begins with it. -/
theorem Source.first?_of_token {text : List Glyph} {t : Tree} {c : Node} (h : t.Source c)
    (built : t.Built text) {k : Terminal} (symbol : c.symbol = .terminal k)
    (plain : c.label.extra = false) : c.first? = some k := by
  have hsymbol := h.unaliased_symbol
  rw [symbol] at hsymbol
  obtain ⟨token, rfl, rfl⟩ := eq_leaf_of_symbol hsymbol.symm
  rw [h.first? built nofun]
  refine first?_leaf ?_
  cases h with
  | token => exact plain

/-- A child that is a phrase begins with a token that the phrase may begin with. -/
theorem Source.first?_of_phrase {text : List Glyph} {t : Tree} {c : Node} (h : t.Source c)
    (built : t.Built text) {n : Nonterminal} (symbol : c.symbol = .nonterminal n) (inner : n ≠ .program) :
    ∃ k, c.first? = some k ∧ (first n).testBit k.index = true := by
  have hsymbol := h.unaliased_symbol
  rw [symbol] at hsymbol
  have hinner : t.symbol ≠ .nonterminal .program := fun hprogram =>
    inner (Symbol.nonterminal.inj (hsymbol.trans hprogram))
  rw [h.first? built hinner]
  exact built.first n hsymbol.symm inner

theorem Source.children_eq {phrase : Nonterminal} {layout : Layout} {children : List Tree} {n : Node}
    (h : (node phrase layout children).Source n) : n.children = nodesFrom layout 0 children := by
  cases h with
  | phrase => rfl

/-- What a rule sees of the children of a node are its structural children. -/
theorem Source.items_eq {text : List Glyph} {t : Tree} {d : Node} (h : t.Source d)
    (built : t.Built text) :
    d.structural.map (fun c => (⟨c.symbol, c.field⟩ : Item)) = Node.items d.children := by
  rw [Node.structural, Node.items]
  exact congrArg _ (List.filter_congr fun c hc => by rw [h.extras built c hc])

/-- A child that a destination has among its structural ones, with the tree that it shows. -/
theorem Source.exists_structural {text : List Glyph} {t : Tree} {d c : Node} (h : t.Source d)
    (built : t.Built text) (hc : c ∈ d.structural) :
    ∃ s : Tree, s.Source c ∧ s.Built text ∧ c.label.extra = false := by
  obtain ⟨hmem, hplain⟩ := List.mem_filter.1 hc
  obtain ⟨s, hs, hsource⟩ := h.exists_child built hmem
  exact ⟨s, hsource, hs.built built, by simpa using hplain⟩

/-- The clause that a child of a destination in braces begins, as its symbol tells. -/
theorem Source.clause?_eq {text : List Glyph} {t : Tree} {d c : Node} (h : t.Source d)
    (built : t.Built text) (hc : c ∈ d.structural) :
    (∀ k, c.symbol = .terminal k → c.clause? = Clause.begunBy k) ∧
      (c.symbol = .nonterminal .destinationInOrderClause → c.clause? = some .max) ∧
      (c.symbol = .nonterminal .keptOrDestination → c.clause? = none) ∧
      (c.symbol = .nonterminal .allotmentClauseDest →
        c.clause? = some .portion ∨ c.first? = some .kwRemaining) := by
  obtain ⟨s, hs, hbuilt, hplain⟩ := h.exists_structural built hc
  have hphrase : ∀ {n : Nonterminal}, c.symbol = .nonterminal n → n ≠ .program →
      ∃ k, c.clause? = Clause.begunBy k ∧ c.first? = some k ∧ (first n).testBit k.index = true := by
    intro n hsymbol hinner
    obtain ⟨k, hk, hbit⟩ := hs.first?_of_phrase hbuilt hsymbol hinner
    exact ⟨k, by rw [Node.clause?, hk]; rfl, hk, hbit⟩
  refine ⟨fun k hsymbol => ?_, fun hsymbol => ?_, fun hsymbol => ?_, fun hsymbol => ?_⟩
  · rw [Node.clause?, hs.first?_of_token hbuilt hsymbol hplain]
    rfl
  · obtain ⟨k, hk, _, hbit⟩ := hphrase hsymbol nofun
    rw [hk, Clause.begunBy_inOrderClause k (Terminal.mem_all k) hbit]
  · obtain ⟨k, hk, _, hbit⟩ := hphrase hsymbol nofun
    rw [hk, Clause.begunBy_keptOrDestination k (Terminal.mem_all k) hbit]
  · obtain ⟨k, hk, hfirst, hbit⟩ := hphrase hsymbol nofun
    rw [hk, hfirst]
    exact (Clause.begunBy_allotmentClause k (Terminal.mem_all k) hbit).imp id (congrArg some)

/-- The clauses of a destination that is filled in order. -/
theorem Source.inOrder {text : List Glyph} {layout : Layout} {children : List Tree} {d : Node}
    (h : (node .destInorder layout children).Source d)
    (built : (node .destInorder layout children).Built text) : Clause.InOrder d.clauses := by
  obtain ⟨count, hitems⟩ := Grammar.items_of_inOrder (built.follows _ _ _ rfl)
  have hsymbols : d.structural.map (·.symbol) = .terminal .lbrace ::
      (List.replicate count (.nonterminal .destinationInOrderClause) ++
        [.terminal .kwRemaining, .nonterminal .keptOrDestination, .terminal .rbrace]) := by
    have hmap := congrArg (List.map (·.symbol)) (h.items_eq built)
    rw [h.children_eq, hitems, List.map_map] at hmap
    simpa [Function.comp_def] using hmap
  have hclauses : d.clauses = (d.structural.map (·.symbol)).filterMap Clause.ofSymbol := by
    rw [Node.clauses, List.filterMap_map]
    refine List.filterMap_congr fun c hc => ?_
    obtain ⟨htoken, hcapped, htarget, _⟩ := h.clause?_eq built hc
    have hmem := List.mem_map_of_mem (f := (·.symbol)) hc
    rw [hsymbols] at hmem
    simp only [List.mem_cons, List.mem_append, List.mem_replicate, List.not_mem_nil, or_false] at hmem
    rcases hmem with hsymbol | ⟨_, hsymbol⟩ | hsymbol | hsymbol | hsymbol
    · rw [htoken _ hsymbol, Function.comp_apply, hsymbol]
      rfl
    · rw [hcapped hsymbol, Function.comp_apply, hsymbol]
      rfl
    · rw [htoken _ hsymbol, Function.comp_apply, hsymbol]
      rfl
    · rw [htarget hsymbol, Function.comp_apply, hsymbol]
      rfl
    · rw [htoken _ hsymbol, Function.comp_apply, hsymbol]
      rfl
  refine ⟨count, ?_⟩
  rw [hclauses, hsymbols]
  simp only [List.filterMap_cons, List.filterMap_append, Clause.ofSymbol, Clause.begunBy,
    List.filterMap_nil]
  exact congrArg (· ++ _) (List.filterMap_replicate_of_some rfl)

/-- The structural children of an allotment: the braces and the clauses between them. -/
theorem Source.exists_clauses {text : List Glyph} {layout : Layout} {children : List Tree} {d : Node}
    (h : (node .destAllotment layout children).Source d)
    (built : (node .destAllotment layout children).Built text) : ∃ opening clauses closing,
      d.structural = opening :: (clauses ++ [closing]) ∧ clauses ≠ [] ∧
      d.clauses = clauses.filterMap Node.clause? ∧
      ∀ c ∈ clauses, c.clause? = some .portion ∨ c.first? = some .kwRemaining := by
  obtain ⟨count, hitems⟩ := Grammar.items_of_allotment (built.follows _ _ _ rfl)
  have hmap := h.items_eq built
  rw [h.children_eq, hitems] at hmap
  obtain ⟨opening, inner, hstructural, hopening, hinner⟩ := List.map_eq_cons_iff.1 hmap
  obtain ⟨clauses, more, rfl, hclauses, hmore⟩ := List.map_eq_append_iff.1 hinner
  obtain ⟨closing, more, rfl, hclosing, hmore⟩ := List.map_eq_cons_iff.1 hmore
  obtain rfl := List.map_eq_nil_iff.1 hmore
  simp only [Item.mk.injEq] at hopening hclosing
  have htells : ∀ c ∈ opening :: (clauses ++ [closing]), _ := fun c hc =>
    h.clause?_eq built (hstructural ▸ hc)
  refine ⟨opening, clauses, closing, hstructural, ?_, ?_, fun c hc => ?_⟩
  · rintro rfl
    cases hclauses
  · rw [Node.clauses, hstructural,
      List.filterMap_cons_none ((htells opening (by simp)).1 _ hopening.1), List.filterMap_append,
      List.filterMap_cons_none ((htells closing (by simp)).1 _ hclosing.1), List.filterMap_nil,
      List.append_nil]
  · have hmem := List.mem_map_of_mem (f := fun c : Node => (⟨c.symbol, c.field⟩ : Item)) hc
    rw [hclauses, List.mem_replicate, Item.mk.injEq] at hmem
    exact (htells c (by simp [hc])).2.2.2 hmem.2.1

/-- Clauses of which each is a portion or takes what remains are in order only if there is a single one. -/
theorem eq_singleton_of_inOrder {clauses : List Node}
    (all : ∀ c ∈ clauses, c.clause? = some .portion ∨ c.first? = some .kwRemaining)
    (h : Clause.InOrder (clauses.filterMap Node.clause?)) :
    ∃ c, clauses = [c] ∧ c.first? = some .kwRemaining := by
  obtain ⟨count, hcount⟩ := h
  have hremaining : ∀ c : Node, c.first? = some .kwRemaining → c.clause? = some .remaining := by
    intro c hc
    rw [Node.clause?, hc]
    rfl
  have hcount0 : count = 0 := by
    by_contra hpos
    have hmem : Clause.max ∈ clauses.filterMap Node.clause? := by
      rw [hcount]
      simp [hpos]
    obtain ⟨c, hc, hmax⟩ := List.mem_filterMap.1 hmem
    rcases all c hc with h | h
    · rw [h] at hmax
      cases hmax
    · rw [hremaining c h] at hmax
      cases hmax
  subst hcount0
  have hall : ∀ c ∈ clauses, (c.clause?).isSome = true := fun c hc => by
    rcases all c hc with h | h
    · rw [h]
      rfl
    · rw [hremaining c h]
      rfl
  have hlength : clauses.length = 1 := by
    have hsame := List.filterMap_length_eq_length.2 hall
    rw [hcount] at hsame
    exact hsame.symm
  obtain ⟨c, rfl⟩ := List.length_eq_one_iff.1 hlength
  refine ⟨c, rfl, (all c (List.mem_singleton_self c)).resolve_left fun hportion => ?_⟩
  rw [List.filterMap_cons_some hportion] at hcount
  cases hcount

/-! ### The law on trees -/

theorem Proper.exists_children {t : Tree} (h : t.Proper) {n : Nonterminal}
    (phrase : t.symbol = .nonterminal n) : ∃ p ∈ productions n, ∃ children,
      t = Tree.node n (rolesOf p) children ∧ children.map Tree.symbol = Reduction.children p ∧
      ∀ c ∈ children, Tree.Proper c := by
  cases h with
  | leaf => cases phrase
  | node spelt _ symbols _ below =>
    obtain rfl := Symbol.nonterminal.inj phrase
    exact ⟨_, spelt, _, rfl, symbols, below⟩

theorem Proper.first?_node {c : Tree} (h : c.Proper) (n : Nonterminal) (layout : Layout)
    (rest : List Tree) : (Tree.node n layout (c :: rest)).first? = c.first? := by
  obtain ⟨token, more, htokens, hplain, _⟩ := h.exists_token
  rw [Tree.first?, Tree.first?, tokens, tokensOfAll, htokens, List.cons_append,
    List.filter_cons_of_pos (by simp [hplain]), List.filter_cons_of_pos (by simp [hplain])]
  rfl

/-- A share that begins with `remaining` is the one that takes what remains. -/
theorem Proper.eq_share {text : List Glyph} {t : Tree} (h : t.Proper) (built : t.Built text)
    (phrase : t.symbol = .nonterminal .allotment) (remains : t.first? = some .kwRemaining) :
    ∃ word, word.kind = .kwRemaining ∧ t = Braces.share word := by
  have hshare : ∀ p ∈ productions .allotment, rolesOf p = .plain ∧
      (Reduction.children p = [.nonterminal .portionedAllotment] ∨
        Reduction.children p = [.nonterminal .remainingAllotment]) := by decide +kernel
  have hremaining : ∀ p ∈ productions .remainingAllotment, rolesOf p = .plain ∧
      Reduction.children p = [.terminal .kwRemaining] := by decide +kernel
  obtain ⟨p, hp, children, rfl, symbols, below⟩ := h.exists_children phrase
  obtain ⟨hplain, hchildren⟩ := hshare p hp
  obtain ⟨x, rfl⟩ : ∃ x, children = [x] := List.length_eq_one_iff.1 (by
    have hlength := congrArg List.length symbols
    rcases hchildren with h | h <;> simpa [h] using hlength)
  have hx := below x (List.mem_singleton_self x)
  rw [hx.first?_node] at remains
  obtain _ | ⟨_, hbuilt⟩ := built
  rcases hchildren with hportion | hremains
  · rw [hportion] at symbols
    obtain ⟨k, hk, hbit⟩ := (hbuilt x (List.mem_singleton_self x)).first .portionedAllotment
      (List.cons.inj symbols).1 nofun
    rw [remains] at hk
    obtain rfl := Option.some.inj hk
    have hnone : (first .portionedAllotment).testBit Terminal.kwRemaining.index = false := by
      decide +kernel
    rw [hnone] at hbit
    cases hbit
  · rw [hremains] at symbols
    obtain ⟨p', hp', children', rfl, symbols', _⟩ := hx.exists_children (List.cons.inj symbols).1
    obtain ⟨hplain', hchildren'⟩ := hremaining p' hp'
    rw [hchildren'] at symbols'
    obtain ⟨y, more, rfl, hy, hmore⟩ := List.map_eq_cons_iff.1 symbols'
    obtain rfl := List.map_eq_nil_iff.1 hmore
    obtain ⟨word, rfl, hword⟩ := eq_leaf_of_symbol hy
    exact ⟨word, hword, by rw [hplain, hplain']; rfl⟩

/-- A clause that begins with `remaining` has that for its share. -/
theorem Proper.exists_target {text : List Glyph} {t : Tree} (h : t.Proper) (built : t.Built text)
    (phrase : t.symbol = .nonterminal .allotmentClauseDest) (remains : t.first? = some .kwRemaining) :
    ∃ word target, word.kind = .kwRemaining ∧
      t = Tree.node .allotmentClauseDest .plain [Braces.share word, target] := by
  have hclause : ∀ p ∈ productions .allotmentClauseDest, rolesOf p = .plain ∧
      Reduction.children p = [.nonterminal .allotment, .nonterminal .keptOrDestination] := by
    decide +kernel
  obtain ⟨p, hp, children, rfl, symbols, below⟩ := h.exists_children phrase
  obtain ⟨hplain, hchildren⟩ := hclause p hp
  rw [hchildren] at symbols
  obtain ⟨share, more, rfl, hshare, hmore⟩ := List.map_eq_cons_iff.1 symbols
  obtain ⟨target, more, rfl, _, hmore⟩ := List.map_eq_cons_iff.1 hmore
  obtain rfl := List.map_eq_nil_iff.1 hmore
  have hproper := below share List.mem_cons_self
  rw [hproper.first?_node] at remains
  obtain _ | ⟨_, hbuilt⟩ := built
  obtain ⟨word, hword, rfl⟩ := hproper.eq_share (hbuilt share List.mem_cons_self) hshare remains
  exact ⟨word, target, hword, by rw [hplain]⟩

/-- The nodes that children show, but for comments, are shown by those that are no comments. -/
theorem filter_nodesFrom (layout : Layout) (children : List Tree) (place : Nat) :
    (nodesFrom layout place children).filter (fun n => !n.label.extra) =
      (nodesFrom layout place (children.filter fun t => !t.isComment)).filter
        fun n => !n.label.extra := by
  induction children generalizing place with
  | nil => rfl
  | cons c children ih =>
    cases hc : c.isComment with
    | true =>
      cases c with
      | leaf token =>
        have hcomment : token.kind.isComment = true := hc
        rw [nodesFrom, if_pos hc, List.filter_append, List.filter_cons_of_neg (by simp [hc]), ← ih]
        simp [nodes, Node.label, hcomment]
      | node => cases hc
    | false =>
      rw [nodesFrom, if_neg (by simp [hc]), List.filter_append, List.filter_cons_of_pos (by simp [hc]),
        nodesFrom, if_neg (by simp [hc]), List.filter_append, ih]

theorem first?_sifted {t : Tree} (plain : t.isComment = false) : t.sifted.first? = t.first? := by
  rw [first?, first?, tokens_sifted t plain, List.filter_filter]
  simp

theorem Built.sifted {text : List Glyph} {t : Tree} (h : t.Built text) : t.sifted.Built text := by
  induction h with
  | leaf spans => exact .leaf spans
  | @node phrase layout children makes below ih =>
    rw [Tree.sifted]
    have hsame : structural (siftedAll children) = structural children := by
      rw [← symbols_siftedAll children, structural, List.filter_eq_self.2 fun t ht => by
        simp [isComment_of_mem_siftedAll ht]]
    refine .node (hsame ▸ makes) fun c hc => ?_
    rw [siftedAll_eq] at hc
    obtain ⟨d, hd, rfl⟩ := List.mem_map.1 hc
    exact ih d (List.mem_of_mem_filter hd)

theorem nodes_destClauses (layout : Layout) (children : List Tree) (field : Option Field)
    (name : Option Alias) :
    (node .destClauses layout children).nodes field name = nodesFrom layout 0 children := by
  rw [nodes]
  rfl

/-- A list of clauses shows some. -/
theorem clauses_ne_nil {text : List Glyph} {layout : Layout} {children : List Tree}
    (built : (node .destClauses layout children).Built text) :
    (nodesFrom layout 0 children).filter (fun n => !n.label.extra) ≠ [] := by
  have hfits := built.follows _ _ _ rfl
  simp only [rule, Regular.oneOrMore, Regular.fits_seq_iff, Grammar.fits_phrase_iff] at hfits
  obtain ⟨_, rest, hitems, rfl, _⟩ := hfits
  intro hnil
  have hnone : Node.items (nodesFrom layout 0 children) = [] := by
    rw [Node.items, ← List.map_nil, ← hnil]
    exact congrArg _ (List.filter_congr fun c hc => by rw [built.extras c hc])
  rw [hnone] at hitems
  cases hitems

/-- A list and a further clause show at least two clauses. -/
theorem Built.two_le_clauses {text : List Glyph} {children : List Tree}
    (built : (Tree.node .destClauses .plain children).Built text)
    (symbols : structural children = [.nonterminal .destClauses, .nonterminal .allotmentClauseDest]) :
    2 ≤ ((nodesFrom .plain 0 children).filter (fun n => !n.label.extra)).length := by
  obtain _ | ⟨_, below⟩ := built
  rw [structural] at symbols
  obtain ⟨list, more, hfilter, ha, hmore⟩ := List.map_eq_cons_iff.1 symbols
  obtain ⟨clause, more, rfl, hb, hmore⟩ := List.map_eq_cons_iff.1 hmore
  obtain rfl := List.map_eq_nil_iff.1 hmore
  have hmem : list ∈ children := List.mem_of_mem_filter (hfilter ▸ List.mem_cons_self)
  cases list with
  | leaf => cases ha
  | node phrase layout' children' =>
    obtain rfl := Symbol.nonterminal.inj ha
    obtain ⟨n, hn, _, _, hextra, _⟩ := exists_node clause none none
      fun n hn => by
        obtain rfl := Symbol.nonterminal.inj (hn.symm.trans hb)
        rfl
    have hplain := isComment_of_phrase hb
    have hnodes : nodesFrom .plain 0 [.node .destClauses layout' children', clause] =
        nodesFrom layout' 0 children' ++ [n] := by
      rw [nodesFrom, if_neg (by simp [Tree.isComment]), nodes_destClauses, nodesFrom,
        if_neg (by simp [hplain])]
      exact congrArg (fun a => nodesFrom layout' 0 children' ++ (a ++ [])) hn
    rw [filter_nodesFrom, hfilter, hnodes, List.filter_append,
      List.filter_cons_of_pos (by simp [hextra, hplain])]
    have hpos := List.length_pos_iff.2 (clauses_ne_nil (below _ hmem))
    simp only [List.length_append, List.length_cons, List.length_nil, List.filter_nil]
    omega

/-- A list of one clause shows what the clause shows. -/
theorem Built.exists_clause {text : List Glyph} {children : List Tree} {m : Node}
    (built : (Tree.node .destClauses .plain children).Built text)
    (symbols : structural children = [.nonterminal .allotmentClauseDest])
    (single : (nodesFrom .plain 0 children).filter (fun n => !n.label.extra) = [m]) :
    ∃ t : Tree, siftedAll children = [t.sifted] ∧ t.symbol = .nonterminal .allotmentClauseDest ∧
      t.Source m ∧ t.Built text := by
  obtain _ | ⟨makes, below⟩ := built
  obtain ⟨hsources, _⟩ := sources_nodesFrom .plain children 0 makes.children fun n hn => by
    rw [symbols] at hn
    obtain rfl := Symbol.nonterminal.inj (List.mem_singleton.1 hn)
    rfl
  rw [single, List.forall₂_cons_right_iff] at hsources
  obtain ⟨t, rest, ht, hnil, hfilter⟩ := hsources
  obtain rfl := List.forall₂_nil_right_iff.1 hnil
  rw [structural, hfilter] at symbols
  refine ⟨t, by rw [siftedAll_eq, hfilter]; rfl, (List.cons.inj symbols).1, ht, below t ?_⟩
  exact List.mem_of_mem_filter (hfilter ▸ List.mem_singleton_self t)

/-- The clauses of a list that shows as a single one which takes what remains. -/
theorem Proper.eq_clauses {text : List Glyph} {layout : Layout} {children : List Tree} {m : Node}
    (built : (Tree.node .destClauses layout children).Built text)
    (proper : (Tree.node .destClauses layout children).sifted.Proper)
    (single : (nodesFrom layout 0 children).filter (fun n => !n.label.extra) = [m])
    (remains : m.first? = some .kwRemaining) : ∃ word target, word.kind = .kwRemaining ∧
      (Tree.node .destClauses layout children).sifted = Braces.clauses word [] target := by
  have hlists : ∀ p ∈ productions .destClauses, rolesOf p = .plain ∧
      (Reduction.children p = [.nonterminal .allotmentClauseDest] ∨
        Reduction.children p = [.nonterminal .destClauses, .nonterminal .allotmentClauseDest]) := by
    decide +kernel
  rw [Tree.sifted] at proper ⊢
  obtain ⟨p, hp, _, heq, symbols, below⟩ := proper.exists_children rfl
  obtain ⟨-, rfl, rfl⟩ := Tree.node.inj heq
  obtain ⟨hplain, hone | htwo⟩ := hlists p hp
  · rw [hone, symbols_siftedAll] at symbols
    rw [hplain] at built single ⊢
    obtain ⟨t, hsifted, htsymbol, ht, htbuilt⟩ := built.exists_clause symbols single
    have htplain := isComment_of_phrase htsymbol
    rw [ht.first? htbuilt (by simp [htsymbol]), ← first?_sifted htplain] at remains
    rw [hsifted] at below ⊢
    obtain ⟨word, target, hword, htarget⟩ := (below _ (List.mem_singleton_self _)).exists_target
      htbuilt.sifted (by rw [symbol_sifted, htsymbol]) remains
    exact ⟨word, target, hword, by rw [htarget]; rfl⟩
  · rw [htwo, symbols_siftedAll] at symbols
    rw [hplain] at built single
    have hlength := built.two_le_clauses symbols
    rw [single] at hlength
    simp at hlength

/-- An allotment whose clauses are in order is one of a single remaining clause. -/
theorem Source.lone {text : List Glyph} {layout : Layout} {children : List Tree} {d : Node}
    (h : (node .destAllotment layout children).Source d)
    (built : (node .destAllotment layout children).Built text)
    (proper : (node .destAllotment layout children).sifted.Proper)
    (inOrder : Clause.InOrder d.clauses) : (node .destAllotment layout children).sifted.Lone := by
  have hallotment : ∀ p ∈ productions .destAllotment, rolesOf p = .plain ∧ Reduction.children p =
      [.terminal .lbrace, .nonterminal .destClauses, .terminal .rbrace] := by decide +kernel
  obtain ⟨opening, clauses, closing, hstructural, _, hclauses, hall⟩ := h.exists_clauses built
  obtain ⟨m, rfl, hm⟩ := eq_singleton_of_inOrder hall (hclauses ▸ inOrder)
  rw [Tree.sifted] at proper ⊢
  obtain ⟨p, hp, _, heq, symbols, below⟩ := proper.exists_children rfl
  obtain ⟨-, rfl, rfl⟩ := Tree.node.inj heq
  obtain ⟨hplain, hchildren⟩ := hallotment p hp
  rw [hchildren, symbols_siftedAll, Tree.structural] at symbols
  obtain ⟨o, more, hfilter, ho, hmore⟩ := List.map_eq_cons_iff.1 symbols
  obtain ⟨list, more, rfl, hc, hmore⟩ := List.map_eq_cons_iff.1 hmore
  obtain ⟨b, more, rfl, hb, hmore⟩ := List.map_eq_cons_iff.1 hmore
  obtain rfl := List.map_eq_nil_iff.1 hmore
  obtain ⟨o, rfl, hopens⟩ := eq_leaf_of_symbol ho
  obtain ⟨b, rfl, hcloses⟩ := eq_leaf_of_symbol hb
  have hmem : list ∈ children.filter fun t => !t.isComment := by simp [hfilter]
  cases list with
  | leaf => cases hc
  | node phrase layout' children' =>
    obtain rfl := Symbol.nonterminal.inj hc
    have hsingle : (nodesFrom layout' 0 children').filter (fun n => !n.label.extra) = [m] := by
      have hoplain : (leaf o).isComment = false := by simp [isComment, hopens, Terminal.isComment]
      have hbplain : (leaf b).isComment = false := by simp [isComment, hcloses, Terminal.isComment]
      obtain ⟨first, hfirst, _, _, hfextra, _⟩ := exists_node (leaf o) none none (by rintro _ ⟨⟩)
      obtain ⟨last, hlast, _, _, hlextra, _⟩ := exists_node (leaf b) none none (by rintro _ ⟨⟩)
      have hnodes : nodesFrom .plain 0 [leaf o, .node .destClauses layout' children', leaf b] =
          first :: (nodesFrom layout' 0 children' ++ [last]) := by
        rw [nodesFrom, if_neg (by simp [hoplain]), nodesFrom, if_neg (by simp [isComment]),
          nodes_destClauses, nodesFrom, if_neg (by simp [hbplain])]
        exact congrArg₂ (fun a b => a ++ (nodesFrom layout' 0 children' ++ (b ++ []))) hfirst hlast
      rw [Node.structural, h.children_eq, hplain, filter_nodesFrom, hfilter, hnodes,
        List.filter_cons_of_pos (by simp [hfextra, hoplain]), List.filter_append,
        List.filter_cons_of_pos (by simp [hlextra, hbplain]), List.filter_nil] at hstructural
      exact (List.append_inj' (List.cons.inj hstructural).2 rfl).1
    obtain _ | ⟨_, hbelow⟩ := built
    obtain ⟨word, target, hword, htarget⟩ := Proper.eq_clauses (hbelow _ (List.mem_of_mem_filter hmem))
      (below _ (by rw [siftedAll_eq, hfilter]; simp)) hsingle hm
    have hall : siftedAll children = [.leaf o, Braces.clauses word [] target, .leaf b] := by
      rw [siftedAll_eq, hfilter, ← htarget]
      rfl
    rw [hplain, hall]
    exact .here ⟨o, [], word, [], [], b, hopens, hword, hcloses, by simp⟩ target

theorem Proper.within {s t : Tree} (h : t.Proper) (within : Within s t) : s.Proper := by
  induction within with
  | refl => exact h
  | child mem _ ih =>
    cases h with
    | node _ _ _ _ below => exact ih (below _ mem)

theorem Lone.of_within {s t : Tree} (h : s.Lone) (within : Within s t) : t.Lone := by
  induction within with
  | refl => exact h
  | child mem _ ih => exact .inside mem ih

/-- What is within a program without its comments is proper. -/
theorem Within.proper {layout : Layout} {children : List Tree} {s : Tree}
    (h : Within s (node .program layout children)) (proper : ∀ c ∈ siftedAll children, c.Proper)
    (plain : s.isComment = false) (inner : s.symbol ≠ .nonterminal .program) : s.sifted.Proper := by
  have hwithin := h.sifted plain
  rw [Tree.sifted] at hwithin
  generalize hs : s.sifted = t at hwithin
  cases hwithin with
  | refl =>
    refine absurd ?_ inner
    rw [← symbol_sifted, hs]
    rfl
  | child mem within => exact (proper _ mem).within within

/-- A destination that begins with a brace is filled in order or an allotment. -/
theorem Source.braced {text : List Glyph} {t : Tree} {n d : Node} (h : t.Source n)
    (built : t.Built text) (phrase : t.symbol = .nonterminal .destination) (hd : d ∈ n.structural)
    (opens : d.first? = some .lbrace) :
    d.symbol = .nonterminal .destInorder ∨ d.symbol = .nonterminal .destAllotment := by
  have hinner : ∀ p ∈ productions .destination, ∀ i ∈ p, i.isRepetition = false ∧
      ∃ x ∈ Nonterminal.all, i.symbol = .nonterminal x ∧ x ≠ .program ∧
        (x = .destInorder ∨ x = .destAllotment ∨ (first x).testBit Terminal.lbrace.index = false) := by
    decide +kernel
  obtain ⟨s, hs, hbuilt, _⟩ := h.exists_structural built hd
  cases t with
  | leaf => cases phrase
  | node m layout children =>
    obtain rfl := Symbol.nonterminal.inj phrase
    obtain ⟨_, hitems⟩ := h.structural built fun p hp i hi => (hinner p hp i hi).1
    obtain ⟨_, x, _, hx, hprogram, hcases⟩ := hinner _ hitems _ (List.mem_map_of_mem hd)
    rcases hcases with rfl | rfl | hnot
    · exact .inl hx
    · exact .inr hx
    · obtain ⟨k, hk, hbit⟩ := hs.first?_of_phrase hbuilt hx hprogram
      rw [opens] at hk
      obtain rfl := Option.some.inj hk
      rw [hnot] at hbit
      cases hbit

end Tree

theorem Clause.count_of_inOrder {clauses : List Clause} (h : InOrder clauses) :
    clauses.count .remaining = 1 ∧ .portion ∉ clauses := by
  obtain ⟨count, rfl⟩ := h
  simp [List.count_replicate]

/-- What the nodes of a valid program have for their clauses, where they are destinations in braces. -/
theorem inOrder_of_valid {bytes : List UInt8} {root : Node} (h : Program.ofBytes bytes = .valid root) :
    (∀ n ∈ root.inside, ∃ t : Tree, t.Source n ∧ t.Built (Glyph.ofBytes bytes)) ∧
    (∀ d ∈ root.inside, d.symbol = .nonterminal .destInorder → Clause.InOrder d.clauses) ∧
      ∀ d ∈ root.inside, d.symbol = .nonterminal .destAllotment → ¬Clause.InOrder d.clauses := by
  obtain ⟨tokens, tree, hparse, _, rfl, _⟩ := exists_tokens_of_valid bytes h
  have hrecognises := Parser.recognises_of_parse hparse
  obtain ⟨layout, children, rfl, hproper⟩ := hrecognises.proper
  have hbuilt := (Parser.built_of_recognises hrecognises).1
  have hsource := hbuilt.exists_source_program (Point.ofBytes bytes)
  refine ⟨fun n hn => ?_, fun d hd symbol => ?_, fun d hd symbol inOrder => ?_⟩
  · obtain ⟨t, ht, hsource⟩ := hsource n hn
    exact ⟨t, hsource, ht.built hbuilt⟩
  · obtain ⟨t, ht, hsource⟩ := hsource d hd
    obtain ⟨layout', below, rfl⟩ := hsource.exists_phrase (congrArg unaliased symbol)
    exact hsource.inOrder (ht.built hbuilt)
  · obtain ⟨t, ht, hsource⟩ := hsource d hd
    obtain ⟨layout', below, rfl⟩ := hsource.exists_phrase (congrArg unaliased symbol)
    have hlone := hsource.lone (ht.built hbuilt) (ht.proper hproper rfl nofun) inOrder
    exact Parser.not_lone_of_parse hparse
      (hrecognises.lone_sifted_iff.1 (hlone.of_within (ht.sifted rfl)))

/-- Destinations in braces are read by their clauses in every valid program. -/
theorem braces_by_clauses (bytes : List UInt8) (root : Node) (h : Program.ofBytes bytes = .valid root) :
    BracesByClauses root := by
  obtain ⟨hsource, hinOrder, hallotment⟩ := inOrder_of_valid h
  have hbraced : ∀ n ∈ root.inside, n.symbol = .nonterminal .destination → ∀ d ∈ n.structural,
      d.first? = some .lbrace → d ∈ root.inside ∧
        (d.symbol = .nonterminal .destInorder ∨ d.symbol = .nonterminal .destAllotment) := by
    intro n hn symbol d hd opens
    obtain ⟨t, hsource, hbuilt⟩ := hsource n hn
    have hphrase := hsource.unaliased_symbol
    rw [symbol] at hphrase
    refine ⟨Node.inside_trans root hn ?_, hsource.braced hbuilt hphrase.symm hd opens⟩
    exact Node.mem_inside_of_mem_children (List.mem_of_mem_filter hd)
  constructor
  · intro n hn symbol d hd opens
    obtain ⟨hmem, horder | hshares⟩ := hbraced n hn symbol d hd opens
    · have hin := hinOrder d hmem horder
      refine ⟨iff_of_true horder hin, iff_of_false ?_ (not_not.2 hin)⟩
      rw [horder]
      nofun
    · have hout := hallotment d hmem hshares
      refine ⟨iff_of_false ?_ hout, iff_of_true hshares hout⟩
      rw [hshares]
      nofun
  · rintro d hd symbol hclauses
    exact hallotment d hd symbol ⟨0, hclauses⟩
  · intro n hn symbol d hd opens hseveral
    obtain ⟨hmem, hcases⟩ := hbraced n hn symbol d hd opens
    refine hcases.resolve_left fun horder => ?_
    obtain ⟨hcount, hportion⟩ := Clause.count_of_inOrder (hinOrder d hmem horder)
    rcases hseveral with htwo | ⟨_, hmem⟩
    · omega
    · exact hportion hmem

/-- A destination in order with an allotment of what remains in two places below it, and comments. -/
def bracedSend : List UInt8 :=
  ("send $m ( source = @a destination = \x7b max 5 to @b /* and */ remaining to \x7b " ++
    "remaining kept remaining to \x7b remaining to @c \x7d \x7d \x7d )").toList.map fun c => c.toNat.toUInt8

theorem braces_by_clauses_bracedSend : ∃ root : Node, Program.ofBytes bracedSend = .valid root ∧
    BracesByClauses root := by
  have hvalid : (Program.ofBytes bracedSend).root?.isSome = true := by decide +kernel
  cases hprogram : Program.ofBytes bracedSend with
  | invalid furthest =>
    rw [hprogram] at hvalid
    cases hvalid
  | valid root => exact ⟨root, rfl, braces_by_clauses _ _ hprogram⟩

end Numscript
