import Numscript.Proofs.Parser.Crossing
import Numscript.Proofs.Parser.Spine

/-!
# Single clauses on a stack

The tree of an allotment with a single remaining clause is built in stages: the word, its share, the clause,
the clauses, and the braces around them. A reduction takes one stage to the next one and leaves everything
below in place, so each of them can be told from the stack before it.
-/
namespace Numscript.Parser

open Automaton (Reduction Crossing crossings leads? goto? reduction?)

/-- A lower part ends with the opening brace of a destination. -/
def Opens (lower : List Nat) : Prop := ∃ x ∈ crossings, top lower = x.opening

/-- A tree stands on top of a stack, above a lower part with a given spine and below nothing but comments. -/
def Stands (tree : Tree) (lower : List Nat) (s : Stack) : Prop :=
  ∃ n rest, s.bare = ⟨n, tree⟩ :: rest ∧ Stack.spine rest = lower

/-- A tree lies somewhere in a stack, above a lower part with a given spine. -/
def Lies (tree : Tree) (lower : List Nat) (s : Stack) : Prop :=
  ∃ upper n rest, s = upper ++ ⟨n, tree⟩ :: rest ∧ Stack.spine rest = lower

variable {r : Reduction} {tree : Tree} {lower : List Nat} {s u kept : Stack} {w : Token}

/-- The frames that a reduction takes off a stack, and what it leaves. -/
theorem Reduces.exists_taken (h : Reduces r u kept) : ∃ comments taken rest next,
    u.bare = taken ++ rest ∧ (∀ f ∈ comments, f.tree.isComment = true) ∧ kept = comments ++
      ⟨next, .node r.phrase r.layout (taken.map (·.tree)).reverse⟩ :: rest := by
  obtain ⟨pop, _, _⟩ := h
  obtain ⟨taken, htaken, rfl, _⟩ := Stack.pop_eq_some pop
  exact ⟨_, taken, _, _, htaken, u.isComment_restated _, by rw [List.append_nil]⟩

theorem bare_of_comments {comments rest : Stack} {f : Frame}
    (h : ∀ f ∈ comments, f.tree.isComment = true) (hf : f.tree.isComment = false) :
    Stack.bare (comments ++ f :: rest) = f :: rest := by
  rw [Stack.bare, List.dropWhile_append_of_pos h, List.dropWhile_cons_of_neg (by simp [hf])]

/-- What stands on top of a stack behind a reduction is the phrase, and its children were there before. -/
theorem Reduces.stands (h : Reduces r u kept) (hs : Stands tree lower kept) : ∃ children,
    tree = .node r.phrase r.layout children ∧ (∀ c, children = [c] → Stands c lower u) ∧
      ∀ c more, children = c :: more → Lies c lower u := by
  obtain ⟨n, rest, hbare, hrest⟩ := hs
  obtain ⟨comments, taken, rest', next, htaken, hcomments, rfl⟩ := h.exists_taken
  rw [bare_of_comments hcomments rfl] at hbare
  obtain ⟨hframe, rfl⟩ := List.cons.inj hbare
  obtain ⟨_, rfl⟩ := Frame.mk.inj hframe
  refine ⟨_, rfl, fun c hc => ?_, fun c more hc => ?_⟩
  · have hone : taken.map (·.tree) = [c] := by simpa using congrArg List.reverse hc
    obtain ⟨f, rfl, rfl⟩ := List.map_eq_singleton_iff.1 hone
    exact ⟨f.state, rest', htaken, hrest⟩
  · have hmore : taken.map (·.tree) = more.reverse ++ [c] := by
      simpa using congrArg List.reverse hc
    obtain ⟨upper, last, rfl, _, hlast⟩ := List.map_eq_append_iff.1 hmore
    obtain ⟨f, rfl, rfl⟩ := List.map_eq_singleton_iff.1 hlast
    refine ⟨u.comments ++ upper, f.state, rest', ?_, hrest⟩
    conv_lhs => rw [← u.comments_append_bare, htaken]
    simp

theorem Reduces.lies (h : Reduces r u kept) (plain : tree.isComment = false)
    (hl : Lies tree lower kept) : Stands tree lower kept ∨ Lies tree lower u := by
  obtain ⟨upper, n, rest, hkept, hrest⟩ := hl
  obtain ⟨comments, taken, rest', next, htaken, hcomments, rfl⟩ := h.exists_taken
  rcases List.append_eq_append_iff.1 hkept with ⟨middle, rfl, hmiddle⟩ | ⟨middle, hmiddle, hlower⟩
  · cases middle with
    | nil =>
      obtain ⟨hframe, rfl⟩ := List.cons.inj hmiddle
      obtain ⟨rfl, rfl⟩ := Frame.mk.inj hframe
      exact .inl ⟨_, _, bare_of_comments hcomments rfl, hrest⟩
    | cons f middle =>
      obtain ⟨_, rfl⟩ := List.cons.inj hmiddle
      refine .inr ⟨u.comments ++ (taken ++ middle), n, rest, ?_, hrest⟩
      conv_lhs => rw [← u.comments_append_bare, htaken]
      simp
  · cases middle with
    | nil =>
      obtain ⟨hframe, rfl⟩ := List.cons.inj hlower
      obtain ⟨rfl, rfl⟩ := Frame.mk.inj hframe
      exact .inl ⟨_, _, bare_of_comments hcomments rfl, hrest⟩
    | cons f middle =>
      obtain ⟨rfl, _⟩ := List.cons.inj hlower
      have hcomment := hcomments ⟨n, tree⟩ (by rw [hmiddle]; simp)
      simp [plain] at hcomment

theorem Reduces.not_stands_leaf (h : Reduces r u kept) : ¬Stands (.leaf w) lower kept := by
  intro hs
  obtain ⟨_, hnode, _⟩ := h.stands hs
  cases hnode

/-- The share of a clause that takes what remains, before it is known to be one. -/
def Braces.amount (w : Token) : Tree := .node .remainingAllotment .plain [.leaf w]

/-- The single clause. -/
def Braces.clause (w : Token) (between : List Tree) (target : Tree) : Tree :=
  .node .allotmentClauseDest .plain (Braces.share w :: between ++ [target])

/-- How far a single clause has come on a stack. -/
inductive Lonely (w : Token) (lower : List Nat) (s : Stack) : Prop where
  | word (h : Stands (.leaf w) lower s)
  | amount (h : Stands (Braces.amount w) lower s)
  | share (h : Lies (Braces.share w) lower s)
  | clause {between : List Tree} {target : Tree} (h : Stands (Braces.clause w between target) lower s)
  | clauses {between : List Tree} {target : Tree}
      (h : Stands (Braces.clauses w between target) lower s)

theorem Reduces.lonely (h : Reduces r u kept) (hl : Lonely w lower kept) : Lonely w lower u := by
  cases hl with
  | word hs => exact absurd hs h.not_stands_leaf
  | amount hs =>
    obtain ⟨children, hnode, hone, _⟩ := h.stands hs
    obtain ⟨_, _, rfl⟩ := Tree.node.inj hnode
    exact .word (hone _ rfl)
  | share hs =>
    rcases h.lies rfl hs with hs | hs
    · obtain ⟨children, hnode, hone, _⟩ := h.stands hs
      obtain ⟨_, _, rfl⟩ := Tree.node.inj hnode
      exact .amount (hone _ rfl)
    · exact .share hs
  | clause hs =>
    obtain ⟨children, hnode, _, hmore⟩ := h.stands hs
    obtain ⟨_, _, rfl⟩ := Tree.node.inj hnode
    exact .share (hmore _ _ rfl)
  | clauses hs =>
    obtain ⟨children, hnode, hone, _⟩ := h.stands hs
    obtain ⟨_, _, rfl⟩ := Tree.node.inj hnode
    exact .clause (hone _ rfl)

/-- The closing brace stands behind the single clause. -/
def Shut (w : Token) (lower : List Nat) (s : Stack) : Prop :=
  ∃ n brace rest between target, s.bare = ⟨n, .leaf brace⟩ :: rest ∧ brace.kind = .rbrace ∧
    Stands (Braces.clauses w between target) lower rest

/-- A reading by shares holds the single clause, or the share that it begins with. -/
def Holds (w : Token) (lower : List Nat) (s : Stack) : Prop :=
  Lies (Braces.share w) lower s ∨ Shut w lower s

theorem Settles.exists_leaf {token : Token} (h : Settles token u (.pushed s)) :
    ∃ n t, s = ⟨n, .leaf token⟩ :: t := by
  generalize he : Ending.pushed s = e at h
  induction h with
  | pass =>
    cases he
    exact ⟨_, _, rfl⟩
  | shift =>
    cases he
    exact ⟨_, _, rfl⟩
  | reduce _ _ _ _ ih => exact ih he
  | accept => cases he

theorem Settles.lonely {token : Token} (h : Settles token u (.pushed s))
    (plain : token.kind.isComment = false) (hs : Holds w lower s) : Lonely w lower u := by
  generalize he : Ending.pushed s = e at h
  induction h with
  | pass comment => simp [comment] at plain
  | @shift u next _ leads =>
    cases he
    rcases hs with ⟨upper, n, rest, hsplit, hrest⟩ | ⟨n, brace, rest, between, target, hbare, _, hs⟩
    · cases upper with
      | nil => cases hsplit
      | cons f upper =>
        obtain ⟨_, rfl⟩ := List.cons.inj hsplit
        exact .share ⟨upper, n, rest, rfl, hrest⟩
    · rw [Stack.bare_cons, if_neg (by simp [Tree.isComment, plain])] at hbare
      obtain ⟨_, rfl⟩ := List.cons.inj hbare
      exact .clauses hs
  | reduce _ _ reduces _ ih => exact reduces.lonely (ih he)
  | accept => cases he

/-- On top of a stack there is a token. -/
def Topped (s : Stack) : Prop := ∀ f ∈ s.bare.head?, ∃ token, f.tree = .leaf token

theorem Settles.topped {token : Token} (h : Settles token u (.pushed s)) (hu : Topped u) :
    Topped s := by
  by_cases hcomment : token.kind.isComment = true
  · cases h with
    | pass => rwa [Topped, Stack.bare_cons, if_pos (by simpa [Tree.isComment] using hcomment)]
    | shift plain => simp [hcomment] at plain
    | reduce plain => simp [hcomment] at plain
  · obtain ⟨n, t, rfl⟩ := h.exists_leaf
    intro f hf
    rw [Stack.bare_cons, if_neg (by simpa [Tree.isComment] using hcomment)] at hf
    obtain rfl := Option.some.inj hf
    exact ⟨token, rfl⟩

theorem Lonely.of_topped (h : Lonely w lower s) (hs : Topped s) :
    Stands (.leaf w) lower s ∨ Lies (Braces.share w) lower s := by
  have hnode : ∀ {phrase : Nonterminal} {layout : Layout} {children : List Tree},
      ¬Stands (.node phrase layout children) lower s := by
    rintro phrase layout children ⟨n, rest, hbare, _⟩
    obtain ⟨token, htoken⟩ := hs ⟨n, .node phrase layout children⟩ (by rw [hbare]; rfl)
    cases htoken
  cases h with
  | word h => exact .inl h
  | amount h => exact absurd h hnode
  | share h => exact .inr h
  | clause h => exact absurd h hnode
  | clauses h => exact absurd h hnode

/-- What a branch holds after a token, it held before it, or it had the word on top. -/
theorem Settles.holds {token : Token} (h : Settles token u (.pushed s)) (hu : Topped u)
    (hs : Holds w lower s) :
    token.kind.isComment = true ∧ Holds w lower u ∨ token.kind.isComment = false ∧
      (Lies (Braces.share w) lower u ∨ Stands (.leaf w) lower u) := by
  by_cases hcomment : token.kind.isComment = true
  · refine .inl ⟨hcomment, ?_⟩
    cases h with
    | pass =>
      rcases hs with ⟨upper, n, rest, hsplit, hrest⟩ | ⟨n, brace, rest, between, target, hbare, hs⟩
      · cases upper with
        | nil => cases hsplit
        | cons f upper =>
          obtain ⟨_, rfl⟩ := List.cons.inj hsplit
          exact .inl ⟨upper, n, rest, rfl, hrest⟩
      · rw [Stack.bare_cons, if_pos (by simpa [Tree.isComment] using hcomment)] at hbare
        exact .inr ⟨n, brace, rest, between, target, hbare, hs⟩
    | shift plain => simp [hcomment] at plain
    | reduce plain => simp [hcomment] at plain
  · have hplain : token.kind.isComment = false := by simpa using hcomment
    exact .inr ⟨hplain, ((h.lonely hplain hs).of_topped hu).symm⟩

theorem Viable.leads_of_cons {f : Frame} (h : Viable (f :: s)) (plain : f.tree.isComment = false) :
    leads? s.state f.tree.symbol = some f.state := by
  cases h with
  | comment _ hc => simp [plain] at hc
  | read _ _ leads => exact leads

theorem Stands.spine (h : Stands tree lower s) (hv : Viable s) (plain : tree.isComment = false) :
    ∃ n, s.spine = n :: lower ∧ leads? (top lower) tree.symbol = some n := by
  obtain ⟨n, rest, hbare, rfl⟩ := h
  have hdrop : Viable s.bare := hv.dropWhile
  rw [hbare] at hdrop
  refine ⟨n, ?_, ?_⟩
  · rw [← Stack.spine_bare, hbare, Stack.spine_cons plain]
  · rw [hdrop.tail.top_spine]
    exact hdrop.leads_of_cons plain

theorem Lies.spine (h : Lies tree lower s) (hv : Viable s) (plain : tree.isComment = false) :
    ∃ upper n, s.spine = upper ++ n :: lower ∧ leads? (top lower) tree.symbol = some n := by
  obtain ⟨upper, n, rest, rfl, rfl⟩ := h
  refine ⟨Stack.spine upper, n, ?_, ?_⟩
  · rw [Stack.spine_append, Stack.spine_cons plain]
  · rw [hv.of_append.tail.top_spine]
    exact hv.of_append.leads_of_cons plain

theorem crossings_begin : ∀ x ∈ crossings,
    leads? x.opening (.terminal .kwRemaining) = some x.word ∧ x.clauses ≠ 518 ∧ x.word ≠ 518 ∧
      ∀ y ∈ crossings, x.clauses ≠ y.word := by
  decide +kernel

theorem Lies.spine_share {x : Crossing} (mem : x ∈ crossings) (opens : top lower = x.opening)
    (h : Lies (Braces.share w) lower s) (hv : Viable s) :
    ∃ upper, s.spine = upper ++ 518 :: lower := by
  obtain ⟨upper, n, hspine, leads⟩ := h.spine hv rfl
  obtain ⟨_, _, _, hshare, _⟩ := Automaton.crossings_do x mem
  rw [opens] at leads
  obtain rfl : n = 518 := Option.some.inj (leads.symm.trans hshare)
  exact ⟨upper, hspine⟩

theorem Shut.spine {x : Crossing} (mem : x ∈ crossings) (opens : top lower = x.opening)
    (h : Shut w lower s) (hv : Viable s) : ∃ n, s.spine = n :: x.clauses :: lower := by
  obtain ⟨n, brace, rest, between, target, hbare, closes, hs⟩ := h
  have hdrop : Viable s.bare := hv.dropWhile
  rw [hbare] at hdrop
  obtain ⟨m, hspine, leads⟩ := hs.spine hdrop.tail rfl
  obtain ⟨_, _, _, _, _, hclauses, _⟩ := Automaton.crossings_do x mem
  rw [opens] at leads
  obtain rfl : m = x.clauses := Option.some.inj (leads.symm.trans hclauses)
  refine ⟨n, ?_⟩
  rw [← Stack.spine_bare, hbare, Stack.spine_cons (isComment_leaf closes rfl), hspine]

/-- No tree on a stack holds an allotment of a single remaining clause. -/
def Clean (s : Stack) : Prop := ∀ f ∈ s, ¬f.tree.Lone

theorem not_lone_of_isComment {t : Tree} (h : t.isComment = true) : ¬t.Lone := by
  rintro (_ | _) <;> cases h

theorem opening_of_clauses : ∀ q < Automaton.stateCount, ∀ n ∈ leads? q (.terminal .lbrace),
    (goto? n .destClauses).isSome = true → ∃ x ∈ crossings, n = x.opening := by
  decide +kernel

/-- An allotment of a single remaining clause is completed only behind the closing brace. -/
theorem Viable.shut_of_taken {b : Braces} {target : Tree} {taken rest : Stack} (h : Viable u)
    (hbare : u.bare = taken ++ rest) (hb : b.allotment target = .node .destAllotment .plain
      (taken.map (·.tree)).reverse) :
    ∃ lower, Opens lower ∧ Shut b.word lower u := by
  have hchildren := congrArg List.reverse (Tree.node.inj hb).2.2
  simp only [List.reverse_reverse, List.reverse_cons, List.reverse_append, List.append_assoc,
    List.reverse_nil, List.nil_append, List.cons_append] at hchildren
  obtain ⟨brace, taken, rfl, hbrace, htaken⟩ := List.map_eq_cons_iff.1 hchildren.symm
  obtain ⟨behind, taken, rfl, hbehind, htaken⟩ := List.map_eq_append_iff.1 htaken
  obtain ⟨clauses, taken, rfl, hclauses, htaken⟩ := List.map_eq_cons_iff.1 htaken
  obtain ⟨before, last, rfl, hbefore, hlast⟩ := List.map_eq_append_iff.1 htaken
  obtain ⟨opening, rfl, hopening⟩ := List.map_eq_singleton_iff.1 hlast
  have hcomments : ∀ {l : Stack} {trees : List Tree}, l.map (·.tree) = trees.reverse →
      (∀ t ∈ trees, t ∈ b.before ++ b.between ++ b.behind) → ∀ f ∈ l, f.tree.isComment = true := by
    intro l trees hl htrees f hf
    refine b.comments _ (htrees _ (List.mem_reverse.1 ?_))
    rw [← hl]
    exact List.mem_map_of_mem hf
  have hbefore' := hcomments hbefore fun t ht => by simp [ht]
  have hbehind' := hcomments hbehind fun t ht => by simp [ht]
  have hlower : Stack.spine (before ++ opening :: rest) = opening.state :: rest.spine := by
    rw [Stack.spine_append, Stack.spine_of_comments hbefore', List.nil_append,
      Stack.spine_cons (by rw [hopening]; exact isComment_leaf b.opens rfl)]
  have hv : Viable u.bare := h.dropWhile
  rw [hbare] at hv
  simp only [List.cons_append, List.append_assoc, List.nil_append] at hv hbare
  have hclause := hv.tail.of_append
  have hleads := hclause.leads_of_cons (by rw [hclauses]; rfl)
  have hopen := hclause.tail.of_append
  have hleads' := hopen.leads_of_cons (by rw [hopening]; exact isComment_leaf b.opens rfl)
  rw [← hclause.tail.top_spine, hlower, hclauses] at hleads
  rw [hopening, Tree.symbol, b.opens] at hleads'
  refine ⟨opening.state :: rest.spine, opening_of_clauses _ hopen.tail.state_lt _ hleads' ?_, ?_⟩
  · rw [← leads?_nonterminal]
    exact Option.isSome_iff_exists.2 ⟨_, hleads⟩
  · refine ⟨brace.state, b.closing, behind ++ clauses :: (before ++ opening :: rest), b.between,
      target, ?_, b.closes, ?_⟩
    · rw [hbare, ← hbrace]
    · refine ⟨clauses.state, before ++ opening :: rest, ?_, hlower⟩
      rw [bare_of_comments hbehind' (by rw [hclauses]; rfl), ← hclauses]

theorem Reduces.clean_or_shut (h : Reduces r u kept) (hv : Viable u) (hu : Clean u) :
    Clean kept ∨ ∃ w lower, w.kind = .kwRemaining ∧ Opens lower ∧ Shut w lower u := by
  obtain ⟨comments, taken, rest, next, htaken, hcomments, rfl⟩ := h.exists_taken
  have hmem : ∀ f ∈ taken ++ rest, f ∈ u := by
    intro f hf
    rw [← u.comments_append_bare, htaken]
    exact List.mem_append_right _ hf
  by_cases hlone : (Tree.node r.phrase r.layout (taken.map (·.tree)).reverse).Lone
  · right
    generalize hnode : Tree.node r.phrase r.layout (taken.map (·.tree)).reverse = node at hlone
    cases hlone with
    | here b target =>
      obtain ⟨hphrase, hlayout, -⟩ := Tree.node.inj hnode
      rw [hphrase, hlayout] at hnode
      obtain ⟨lower, opens, shut⟩ := hv.shut_of_taken htaken hnode.symm
      exact ⟨b.word, lower, b.remains, opens, shut⟩
    | inside mem inner =>
      obtain ⟨-, -, rfl⟩ := Tree.node.inj hnode
      obtain ⟨f, hf, rfl⟩ := List.mem_map.1 (List.mem_reverse.1 mem)
      exact absurd inner (hu f (hmem f (List.mem_append_left _ hf)))
  · left
    intro f hf
    rcases List.mem_append.1 hf with hf | hf
    · exact not_lone_of_isComment (hcomments f hf)
    · rcases List.mem_cons.1 hf with rfl | hf
      · exact hlone
      · exact hu f (hmem f (List.mem_append_right _ hf))

/-- Only behind the closing brace of a single clause a branch makes a clean stack unclean. -/
theorem Settles.clean_or_shut {token : Token} {e : Ending} (h : Settles token u e) (hv : Viable u)
    (hu : Clean u) : (token.kind.isComment = false ∧
      ∃ w lower, w.kind = .kwRemaining ∧ Opens lower ∧ Shut w lower u) ∨
      (∀ s, e = .pushed s → Clean s) ∧ ∀ root, e = .accepted root → ¬root.Lone := by
  have hpush : ∀ {n : Nat} {u : Stack}, Clean u → Clean (⟨n, .leaf token⟩ :: u) := by
    intro n u hu f hf
    rcases List.mem_cons.1 hf with rfl | hf
    · rintro (_ | _)
    · exact hu f hf
  induction h with
  | @pass u comment =>
    refine .inr ⟨?_, nofun⟩
    rintro s ⟨rfl⟩
    exact hpush hu
  | @shift u next plain leads =>
    refine .inr ⟨?_, nofun⟩
    rintro s ⟨rfl⟩
    exact hpush hu
  | reduce plain asks reduces rest ih =>
    rcases reduces.clean_or_shut hv hu with hkept | hshut
    · refine .inr ((ih (hv.of_reduces reduces) hkept).resolve_left ?_)
      rintro ⟨_, w, lower, _, _, n, brace, below, between, target, hbare, _⟩
      exact reduces.not_stands_leaf ⟨n, below, hbare, rfl⟩
    · exact .inl ⟨plain, hshut⟩
  | @accept u upper lower layout children final kind alone above under =>
    refine .inr ⟨nofun, ?_⟩
    rintro root ⟨rfl⟩ hlone
    subst alone
    generalize hnode : Tree.node .program layout ((lower.map (·.tree)).reverse ++ children ++
      (upper.map (·.tree)).reverse) = node at hlone
    cases hlone with
    | here b target => cases hnode
    | inside mem inner =>
      obtain ⟨-, -, rfl⟩ := Tree.node.inj hnode
      simp only [List.mem_append, List.mem_reverse, List.mem_map] at mem
      rcases mem with (⟨f, hf, rfl⟩ | hchild) | ⟨f, hf, rfl⟩
      · exact hu f (by simp [hf]) inner
      · exact hu _ (List.mem_append_right _ List.mem_cons_self) (.inside hchild inner)
      · exact hu f (by simp [hf]) inner

end Numscript.Parser
