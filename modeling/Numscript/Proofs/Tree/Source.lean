import Numscript.Proofs.Tree.Leaves

/-!
# Where nodes come from

Every node of the visible tree shows one tree of the parsed one: a token, or a phrase that is no repetition,
with what its children show below it.
-/
namespace Numscript.Tree

open Grammar (productions unaliased)

/-- A tree is another one or stands below it. -/
inductive Within (s : Tree) : Tree → Prop where
  | refl : Within s s
  | child {phrase : Nonterminal} {layout : Layout} {children : List Tree} {c : Tree}
      (mem : c ∈ children) (within : Within s c) : Within s (.node phrase layout children)

theorem Within.built {text : List Glyph} {s t : Tree} (h : Within s t) (ht : t.Built text) :
    s.Built text := by
  induction h with
  | refl => exact ht
  | child mem _ ih =>
    cases ht with
    | node _ below => exact ih (below _ mem)

theorem Within.trans {s t u : Tree} (h : Within s t) (h' : Within t u) : Within s u := by
  induction h' with
  | refl => exact h
  | child mem _ ih => exact .child mem ih

theorem Within.eq_of_leaf {s : Tree} {token : Token} (h : Within s (.leaf token)) : s = .leaf token := by
  cases h with
  | refl => rfl

/-- A tree that a node shows, under its own symbol or an alias of it. -/
inductive Source : Tree → Node → Prop where
  | token {token : Token} {symbol : Symbol} (field : Option Field)
      (shows : unaliased symbol = .terminal token.kind) :
      Source (.leaf token) (.mk ⟨symbol, field, token.kind.isComment, token.start, token.stop⟩ [])
  | phrase {phrase : Nonterminal} {layout : Layout} {children : List Tree} {symbol : Symbol}
      (field : Option Field) (shows : unaliased symbol = .nonterminal phrase)
      (lasting : phrase.isRepetition = false) :
      Source (.node phrase layout children)
        (.spanning symbol field .origin (nodesFrom layout 0 children))

theorem Source.unaliased_symbol {t : Tree} {n : Node} (h : Source t n) :
    unaliased n.symbol = t.symbol := by
  cases h with
  | token _ shows => exact shows
  | phrase _ shows => exact shows

/-- A node for a phrase shows a tree of that phrase. -/
theorem Source.exists_phrase {t : Tree} {n : Node} (h : Source t n) {phrase : Nonterminal}
    (symbol : unaliased n.symbol = .nonterminal phrase) :
    ∃ layout children, t = .node phrase layout children := by
  have hsymbol := symbol.symm.trans h.unaliased_symbol
  cases t with
  | leaf => cases hsymbol
  | node m layout children =>
    obtain rfl := Symbol.nonterminal.inj hsymbol
    exact ⟨layout, children, rfl⟩

/-- Every node that a well-built tree shows has its source within the tree. -/
theorem Built.exists_source {text : List Glyph} {t : Tree} (h : t.Built text) :
    (∀ field name, unaliased (t.shownSymbol name) = t.symbol →
      ∀ n ∈ Node.insideAll (t.nodes field name), ∃ s, Within s t ∧ Source s n) ∧
    ∀ phrase layout children, t = .node phrase layout children →
      ∀ n ∈ Node.insideAll (nodesFrom layout 0 children), ∃ s, Within s t ∧ Source s n := by
  induction h with
  | @leaf token _ =>
    refine ⟨fun field name shows n hn => ?_, fun _ _ _ h => nomatch h⟩
    obtain rfl := List.mem_singleton.1 hn
    exact ⟨_, .refl, .token field shows⟩
  | @node phrase layout children makes below ih =>
    have hinner : ∀ n ∈ Node.insideAll (nodesFrom layout 0 children),
        ∃ s, Within s (.node phrase layout children) ∧ Source s n := by
      intro n hn
      rw [Node.insideAll_eq] at hn
      obtain ⟨m, hm, hn⟩ := List.mem_flatMap.1 hn
      obtain ⟨c, hc, field, name, shows, _, hm⟩ := exists_child_of_mem_nodesFrom makes.children hm
      have hmem : n ∈ Node.insideAll (c.nodes field name) := by
        rw [Node.insideAll_eq]
        exact List.mem_flatMap.2 ⟨m, hm, hn⟩
      obtain ⟨s, hs, hsource⟩ := (ih c hc).1 field name shows n hmem
      exact ⟨s, .child hc hs, hsource⟩
    refine ⟨fun field name shows n hn => ?_, fun _ _ _ h => by cases h; exact hinner⟩
    rw [nodes] at hn
    split at hn
    · exact hinner n hn
    · next hlasting =>
      rw [Node.insideAll_eq, List.flatMap_singleton] at hn
      rcases List.mem_cons.1 hn with rfl | hn
      · exact ⟨_, .refl, .phrase field shows (by simpa using hlasting)⟩
      · exact hinner n hn

/-- Every node below the root of a program has its source within the tree. -/
theorem Built.exists_source_program {text : List Glyph} {layout : Layout} {children : List Tree}
    (h : (Tree.node .program layout children).Built text) (textEnd : Point) :
    ∀ n ∈ ((Tree.node .program layout children).program textEnd).inside,
      ∃ s, Within s (.node .program layout children) ∧ Source s n :=
  h.exists_source.2 .program layout children rfl

end Numscript.Tree
