import Numscript.Proofs.Tree.Sift

/-!
# Trimmed trees

No phrase begins or ends with a comment: a comment that is met before a phrase is complete goes on top of it.
In such a tree the comments tell nothing of whether the braces around a single remaining clause are read as
an allotment.
-/
namespace Numscript.Tree

/-- A tree without comments at the ends of its phrases. -/
inductive Trimmed : Tree → Prop where
  | leaf (token : Token) : Trimmed (.leaf token)
  | node {phrase : Nonterminal} {layout : Layout} {children : List Tree}
      (first : ∀ c ∈ children.head?, c.isComment = false)
      (last : ∀ c ∈ children.getLast?, c.isComment = false)
      (below : ∀ c ∈ children, Trimmed c) : Trimmed (.node phrase layout children)

theorem eq_leaf_of_sifted {t : Tree} {token : Token} (h : t.sifted = .leaf token) :
    t = .leaf token := by
  cases t with
  | leaf => exact h
  | node => cases h

theorem exists_node_of_sifted {t : Tree} {phrase : Nonterminal} {layout : Layout}
    {below : List Tree} (h : t.sifted = .node phrase layout below) :
    ∃ children, t = .node phrase layout children ∧ siftedAll children = below := by
  cases t with
  | leaf => cases h
  | node =>
    obtain ⟨rfl, rfl, rfl⟩ := Tree.node.inj h
    exact ⟨_, rfl, rfl⟩

theorem isComment_of_siftedAll {trees : List Tree} (h : siftedAll trees = []) :
    ∀ t ∈ trees, t.isComment = true := by
  rw [siftedAll_eq, List.map_eq_nil_iff, List.filter_eq_nil_iff] at h
  simpa using h

/-- The first tree that is no comment, and the comments before it. -/
theorem exists_of_siftedAll_cons {trees rest : List Tree} {s : Tree}
    (h : siftedAll trees = s :: rest) : ∃ comments t more, trees = comments ++ t :: more ∧
      (∀ c ∈ comments, c.isComment = true) ∧ t.isComment = false ∧ t.sifted = s ∧
      siftedAll more = rest := by
  induction trees with
  | nil => cases h
  | cons t trees ih =>
    rw [siftedAll] at h
    cases hc : t.isComment with
    | true =>
      rw [if_pos hc] at h
      obtain ⟨comments, u, more, rfl, hcomments, hu, hrest⟩ := ih h
      exact ⟨t :: comments, u, more, rfl, List.forall_mem_cons.2 ⟨hc, hcomments⟩, hu, hrest⟩
    | false =>
      rw [if_neg (by simp [hc])] at h
      obtain ⟨hs, hrest⟩ := List.cons.inj h
      exact ⟨[], t, trees, rfl, nofun, hc, hs, hrest⟩

/-- Trees that do not begin with a comment begin with the first one that is none. -/
theorem exists_first {trees rest : List Tree} {s : Tree}
    (first : ∀ c ∈ trees.head?, c.isComment = false) (h : siftedAll trees = s :: rest) :
    ∃ t more, trees = t :: more ∧ t.sifted = s ∧ siftedAll more = rest := by
  obtain ⟨comments, t, more, rfl, hcomments, _, hs, hrest⟩ := exists_of_siftedAll_cons h
  cases comments with
  | nil => exact ⟨t, more, rfl, hs, hrest⟩
  | cons c comments =>
    have hplain := first c rfl
    rw [hcomments c List.mem_cons_self] at hplain
    cases hplain

/-- Trees that do not end with a comment end with the last one that is none. -/
theorem exists_last {trees : List Tree} {s : Tree}
    (last : ∀ c ∈ trees.getLast?, c.isComment = false) (h : siftedAll trees = [s]) :
    ∃ comments t, trees = comments ++ [t] ∧ (∀ c ∈ comments, c.isComment = true) ∧ t.sifted = s := by
  obtain ⟨comments, t, more, rfl, hcomments, _, hs, hrest⟩ := exists_of_siftedAll_cons h
  cases hmore : more.getLast? with
  | none =>
    obtain rfl := List.getLast?_eq_none_iff.1 hmore
    exact ⟨comments, t, rfl, hcomments, hs⟩
  | some c =>
    have hplain := last c (by
      rw [List.getLast?_append, ← List.singleton_append, List.getLast?_append, hmore]
      rfl)
    rw [isComment_of_siftedAll hrest c (List.mem_of_getLast? hmore)] at hplain
    cases hplain

theorem exists_only {trees : List Tree} {s : Tree}
    (first : ∀ c ∈ trees.head?, c.isComment = false)
    (last : ∀ c ∈ trees.getLast?, c.isComment = false) (h : siftedAll trees = [s]) :
    ∃ t, trees = [t] ∧ t.sifted = s := by
  obtain ⟨t, more, rfl, hs, hrest⟩ := exists_first first h
  cases hmore : more.getLast? with
  | none =>
    obtain rfl := List.getLast?_eq_none_iff.1 hmore
    exact ⟨t, rfl, hs⟩
  | some c =>
    have hplain := last c (by rw [← List.singleton_append, List.getLast?_append, hmore]; rfl)
    rw [isComment_of_siftedAll hrest c (List.mem_of_getLast? hmore)] at hplain
    cases hplain

theorem eq_nil_of_comments (trees : List Tree) {part : List Tree} (h : ∀ t ∈ part, t ∈ siftedAll trees)
    (comments : ∀ t ∈ part, t.isComment = true) : part = [] := by
  refine List.eq_nil_iff_forall_not_mem.2 fun t ht => ?_
  have hplain := isComment_of_mem_siftedAll (h t ht)
  rw [comments t ht] at hplain
  cases hplain

theorem eq_share_of_sifted {t : Tree} {word : Token} (ht : t.Trimmed)
    (h : t.sifted = Braces.share word) : t = Braces.share word := by
  obtain ⟨children, rfl, hchildren⟩ := exists_node_of_sifted h
  cases ht with
  | node first last below =>
    obtain ⟨u, rfl, hu⟩ := exists_only first last hchildren
    obtain ⟨leaves, rfl, hleaves⟩ := exists_node_of_sifted hu
    cases below _ List.mem_cons_self with
    | node first last =>
      obtain ⟨v, rfl, hv⟩ := exists_only first last hleaves
      rw [eq_leaf_of_sifted hv]
      rfl

/-- A tree that is a single remaining clause without its comments is one with them. -/
theorem exists_clauses_of_sifted {t target : Tree} {word : Token} {between : List Tree}
    (ht : t.Trimmed) (comments : ∀ c ∈ between, c.isComment = true)
    (h : t.sifted = Braces.clauses word between target) : ∃ between' target',
      t = Braces.clauses word between' target' ∧ ∀ c ∈ between', c.isComment = true := by
  obtain ⟨children, rfl, hchildren⟩ := exists_node_of_sifted h
  cases ht with
  | node first last below =>
    obtain ⟨clause, rfl, hclause⟩ := exists_only first last hchildren
    obtain ⟨parts, rfl, hparts⟩ := exists_node_of_sifted hclause
    obtain rfl : between = [] := eq_nil_of_comments parts (fun c hc => by
      rw [hparts]
      simp [hc]) comments
    cases below _ List.mem_cons_self with
    | @node _ _ _ first last below =>
      obtain ⟨share, more, rfl, hshare, hmore⟩ := exists_first first hparts
      obtain ⟨between', target', rfl, hbetween, htarget⟩ := exists_last (fun c hc => last c (by
        rw [← List.singleton_append, List.getLast?_append, Option.mem_def.1 hc]
        rfl)) hmore
      refine ⟨between', target', ?_, hbetween⟩
      rw [eq_share_of_sifted (below _ List.mem_cons_self) hshare]
      rfl

theorem Trimmed.lone_here {t target : Tree} {b : Braces} (ht : t.Trimmed)
    (h : t.sifted = b.allotment target) : t.Lone := by
  obtain ⟨children, rfl, hchildren⟩ := exists_node_of_sifted h
  have hcomments := b.comments
  have hbefore : b.before = [] := eq_nil_of_comments children (fun c hc => by
    rw [hchildren]
    simp [hc]) fun c hc => hcomments c (by simp [hc])
  have hbehind : b.behind = [] := eq_nil_of_comments children (fun c hc => by
    rw [hchildren]
    simp [hc]) fun c hc => hcomments c (by simp [hc])
  rw [hbefore, hbehind] at hchildren
  cases ht with
  | node first last below =>
    obtain ⟨opening, inner, rfl, hopening, hinner⟩ := exists_first first hchildren
    obtain ⟨before, clauses, tail, rfl, hbefore', _, hclauses, htail⟩ :=
      exists_of_siftedAll_cons hinner
    obtain ⟨behind, closing, rfl, hbehind', hclosing⟩ := exists_last (fun c hc => last c (by
      rw [← List.singleton_append, List.getLast?_append, List.getLast?_append,
        ← List.singleton_append, List.getLast?_append, Option.mem_def.1 hc]
      rfl)) htail
    obtain ⟨between, target', rfl, hbetween⟩ := exists_clauses_of_sifted (below clauses (by simp))
      (fun c hc => hcomments c (by simp [hc])) hclauses
    obtain rfl := eq_leaf_of_sifted hopening
    obtain rfl := eq_leaf_of_sifted hclosing
    have hall : ∀ c ∈ before ++ between ++ behind, c.isComment = true := by
      intro c hc
      rcases List.mem_append.1 hc with hc | hc
      · exact (List.mem_append.1 hc).elim (hbefore' c) (hbetween c)
      · exact hbehind' c hc
    have hlone := Lone.here ⟨b.opening, before, b.word, between, behind, b.closing, b.opens,
      b.remains, b.closes, hall⟩ target'
    simpa [Braces.allotment] using hlone

theorem Trimmed.lone {t : Tree} (ht : t.Trimmed) (h : t.sifted.Lone) : t.Lone := by
  generalize hs : t.sifted = s at h
  induction h generalizing t with
  | here b target => exact ht.lone_here hs
  | inside mem _ ih =>
    obtain ⟨children, rfl, rfl⟩ := exists_node_of_sifted hs
    rw [siftedAll_eq] at mem
    obtain ⟨c, hc, hsifted⟩ := List.mem_map.1 mem
    have hmem := List.mem_of_mem_filter hc
    cases ht with
    | node _ _ below => exact .inside hmem (ih (below c hmem) hsifted)

theorem Trimmed.lone_sifted {b : Braces} {target : Tree} (ht : (b.allotment target).Trimmed) :
    (b.allotment target).sifted.Lone := by
  have hcomments := b.comments
  simp only [List.forall_mem_append] at hcomments
  obtain ⟨⟨hbefore, hbetween⟩, hbehind⟩ := hcomments
  have htarget : target.isComment = false := by
    cases ht with
    | node _ _ below =>
      cases below (Braces.clauses b.word b.between target) (by simp) with
      | node _ _ below =>
        cases below _ List.mem_cons_self with
        | node _ last => exact last target (by simp [List.getLast?_cons])
  have hplain : ∀ {phrase : Nonterminal} {layout : Layout} {children : List Tree},
      (Tree.node phrase layout children).isComment = false := rfl
  have hopens : (Tree.leaf b.opening).isComment = false := by simp [isComment, b.opens, Terminal.isComment]
  have hcloses : (Tree.leaf b.closing).isComment = false := by simp [isComment, b.closes, Terminal.isComment]
  have hword : (Tree.leaf b.word).isComment = false := by simp [isComment, b.remains, Terminal.isComment]
  have hsifted : (b.allotment target).sifted = (Braces.mk b.opening [] b.word [] [] b.closing b.opens
      b.remains b.closes (by simp)).allotment target.sifted := by
    simp only [Braces.allotment, Braces.clauses, Braces.share, sifted, siftedAll_append,
      List.cons_append, hopens, hcloses, hword, htarget, hplain,
      siftedAll_of_comments hbefore, siftedAll_of_comments hbetween, siftedAll_of_comments hbehind,
      List.nil_append, siftedAll]
    simp
  rw [hsifted]
  exact .here _ _

theorem Trimmed.lone_sifted_iff {t : Tree} (ht : t.Trimmed) : t.sifted.Lone ↔ t.Lone := by
  refine ⟨ht.lone, fun h => ?_⟩
  induction h with
  | here b target => exact ht.lone_sifted
  | @inside _ _ children c mem h ih =>
    have hcomment : c.isComment = false := by
      cases h <;> rfl
    cases ht with
    | node _ _ below =>
      refine .inside (c := c.sifted) ?_ (ih (below c mem))
      rw [siftedAll_eq]
      exact List.mem_map.2 ⟨c, List.mem_filter.2 ⟨mem, by simp [hcomment]⟩, rfl⟩

theorem lone_node_iff {phrase : Nonterminal} {layout : Layout} {children : List Tree}
    (other : phrase ≠ .destAllotment) : (node phrase layout children).Lone ↔ ∃ c ∈ children, c.Lone := by
  constructor
  · intro h
    generalize ht : node phrase layout children = t at h
    cases h with
    | here => exact absurd (node.inj ht).1 other
    | inside mem h =>
      obtain ⟨rfl, rfl, rfl⟩ := node.inj ht
      exact ⟨_, mem, h⟩
  · rintro ⟨c, mem, h⟩
    exact .inside mem h

/-- The ends of a program may be comments. -/
theorem lone_sifted_iff_of_trimmed {phrase : Nonterminal} {layout : Layout} {children : List Tree}
    (other : phrase ≠ .destAllotment) (below : ∀ c ∈ children, c.Trimmed) :
    (node phrase layout children).sifted.Lone ↔ (node phrase layout children).Lone := by
  rw [sifted, lone_node_iff other, lone_node_iff other, siftedAll_eq]
  constructor
  · rintro ⟨s, hs, hlone⟩
    obtain ⟨c, hc, rfl⟩ := List.mem_map.1 hs
    have hmem := List.mem_of_mem_filter hc
    exact ⟨c, hmem, (below c hmem).lone_sifted_iff.1 hlone⟩
  · rintro ⟨c, mem, hlone⟩
    have hplain : c.isComment = false := by cases hlone <;> rfl
    refine ⟨c.sifted, List.mem_map.2 ⟨c, List.mem_filter.2 ⟨mem, by simp [hplain]⟩, rfl⟩, ?_⟩
    exact (below c mem).lone_sifted_iff.2 hlone

end Numscript.Tree
