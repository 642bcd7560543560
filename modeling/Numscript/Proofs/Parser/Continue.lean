import Numscript.Proofs.Automaton.Statement
import Numscript.Proofs.Parser.Forest
import Numscript.Proofs.Tree.Unrolled

/-!
# Runs that continue behind a program

A run over a program without variables can be repeated behind the statements of another program: above them
it builds the same trees, moved to their place, and where a statement is complete it joins the statements
of both programs.
-/
namespace Numscript.Parser

open Automaton (Reduction leads? goto? reduction? start walk programWords openers closers)
open Grammar (productions)

variable {origin : Point} {first : List Tree}

/-- The trees of two programs where a statement may begin: those of the second program alone, and those of
both. The trees of the first program are `first`, and the second one begins at `origin`. -/
structure Joins (origin : Point) (first own joined : List Tree) : Prop where
  list : own = [] ∨ own.map Tree.symbol = [.nonterminal .statements]
  word : joined.map Tree.symbol ∈ programWords
  begun : joined = [] → own = []
  same : Tree.unrolledAll joined = first ++ (Tree.unrolledAll own).map (·.moved origin)

theorem Joins.ownWord {own joined : List Tree} (h : Joins origin first own joined) :
    own.map Tree.symbol ∈ programWords := by
  rcases h.list with rfl | hown
  · exact Automaton.nil_mem_programWords
  · rw [hown]
    exact Automaton.statements_mem_programWords

/-- The forests of a run over the second program and of the run over both programs. -/
inductive Continues (origin : Point) (first : List Tree) : List Tree → List Tree → Prop where
  /-- Inside a statement, or between statements. -/
  | inner {own joined upper : List Tree} (h : Joins origin first own joined)
      (begins : ∀ t ∈ upper.head?, t.symbol ∈ openers) :
      Continues origin first (own ++ upper) (joined ++ upper.map (·.moved origin))
  /-- Behind a statement. -/
  | closed {own joined : List Tree} {t : Tree} (h : Joins origin first own joined)
      (isStatement : t.symbol = .nonterminal .statement) :
      Continues origin first (own ++ [t]) (joined ++ [t.moved origin])
  /-- Behind the program. -/
  | whole {own joined : List Tree} (h : Joins origin first own joined) :
      Continues origin first [.node .program .plain own] [.node .program .plain joined]

theorem walk_of_opener {w v : List Symbol} {x : Symbol} (hw : w ∈ programWords) (hx : x ∈ openers) :
    walk start (w ++ x :: v) = walk start (x :: v) := by
  have hopener := Automaton.walk_openers w hw x hx
  have hsplit : w ++ x :: v = (w ++ [x]) ++ v := by simp
  rw [hsplit, Automaton.walk_append, hopener, ← Automaton.walk_append]
  rfl

/-- Inside a statement both runs are in the same state. -/
theorem Joins.state_eq {own joined upper : List Tree} {u : Tree} {s s' : Stack}
    (h : Joins origin first own joined) (hu : u.symbol ∈ openers) (hv : Viable s) (hv' : Viable s')
    (hs : s.forest = own ++ u :: upper)
    (hs' : s'.forest = joined ++ (u :: upper).map (·.moved origin)) : s'.state = s.state := by
  have hwalk := hv.walk_forest
  have hwalk' := hv'.walk_forest
  rw [hs, List.map_append, List.map_cons, walk_of_opener h.ownWord hu] at hwalk
  rw [hs', List.map_append, List.map_map, List.map_cons] at hwalk'
  have hsymbols : upper.map (Tree.symbol ∘ fun t => t.moved origin) = upper.map Tree.symbol := by
    simp [Function.comp_def]
  rw [hsymbols, Function.comp_apply, Tree.symbol_moved, walk_of_opener h.word hu] at hwalk'
  exact Option.some.inj (hwalk'.symm.trans hwalk)

/-- A reduction inside a statement takes no tree of the statements before it. -/
theorem Joins.exists_keep {own joined upper below children : List Tree} {u : Tree} {r : Reduction}
    {forest kept : List Tree} (h : Joins origin first own joined) (hu : u.symbol ∈ openers)
    (hforest : forest = own ++ u :: upper) (c : Completed r forest kept below children) :
    ∃ keep, u :: upper = keep ++ children ∧ below = own ++ keep := by
  rcases List.append_eq_append_iff.1 (hforest.symm.trans c.split) with ⟨m, hbelow, hupper⟩ |
    ⟨m, hown, hchildren⟩
  · exact ⟨m, hupper, hbelow⟩
  · cases m with
    | nil => exact ⟨[], by simpa using hchildren.symm, by simpa using hown.symm⟩
    | cons t m =>
      exfalso
      have hlist : own.map Tree.symbol = [.nonterminal .statements] := by
        rcases h.list with rfl | hown'
        · simp at hown
        · exact hown'
      have hlength := congrArg List.length hlist
      have hsplit := congrArg List.length hown
      simp only [List.length_map, List.length_append, List.length_cons, List.length_nil] at hlength hsplit
      obtain rfl : below = [] := List.length_eq_zero_iff.1 (by omega)
      obtain ⟨p, hp, hspelt⟩ := List.mem_map.1 c.spelt
      have hne : own.map Tree.symbol ≠ [] := by simp [hlist]
      refine Automaton.not_openers_second r.phrase (Nonterminal.mem_all _) p hp _ h.ownWord hne u.symbol hu ?_
      rw [hspelt, hchildren, ← List.nil_append (t :: m), ← hown]
      exact ⟨upper.map Tree.symbol, by simp⟩

theorem moved_node (r : Reduction) (children : List Tree) :
    Tree.node r.phrase r.layout (children.map (·.moved origin)) =
      (Tree.node r.phrase r.layout children).moved origin := by
  rw [Tree.moved, Tree.movedAll_eq]

/-- Inside a statement both runs complete the same phrase. -/
theorem Joins.reduces {own joined upper : List Tree} {u : Tree} {s s' kept : Stack} {k : Terminal}
    {r : Reduction} (h : Joins origin first own joined) (hu : u.symbol ∈ openers) (hv : Viable s)
    (hv' : Viable s') (hs : s.forest = own ++ u :: upper)
    (hs' : s'.forest = joined ++ (u :: upper).map (·.moved origin))
    (asks : reduction? s.state k = some r) (hr : Reduces r s kept) : ∃ r' kept',
      reduction? s'.state k = some r' ∧ Reduces r' s' kept' ∧
      Continues origin first kept.forest kept'.forest := by
  obtain ⟨below, children, c⟩ := hr.exists_completed hv asks
  obtain ⟨keep, hupper, rfl⟩ := h.exists_keep hu hs c
  rw [← h.state_eq hu hv hv' hs hs'] at asks
  obtain ⟨kept', _, hr'⟩ := hv'.reduce asks
  obtain ⟨below', children', c'⟩ := hr'.exists_completed hv' asks
  have hsplit : below' ++ children' =
      (joined ++ keep.map (·.moved origin)) ++ children.map (·.moved origin) := by
    rw [← c'.split, hs', hupper, List.map_append, List.append_assoc]
  obtain ⟨rfl, rfl⟩ := List.append_inj' hsplit (by rw [c'.count, List.length_map, c.count])
  refine ⟨r, kept', asks, hr', ?_⟩
  rw [c.whole, c'.whole, moved_node]
  cases keep with
  | nil =>
    obtain ⟨q, hq, hgoto⟩ := c.leads
    obtain ⟨p, hp, hspelt⟩ := List.mem_map.1 c.spelt
    rw [List.append_nil] at hq ⊢
    rw [List.map_nil, List.append_nil]
    have hhead : (Reduction.children p).head?.any openers.contains = true := by
      rw [hspelt, ← List.nil_append children, ← hupper]
      simpa using hu
    rcases Automaton.openers_phrase _ h.ownWord q hq r.phrase (Nonterminal.mem_all _) hgoto p hp hhead with
      hopener | hstatement
    · refine @Continues.inner origin first own joined [_] h ?_
      rintro _ ⟨⟩
      exact hopener
    · exact .closed h (congrArg Symbol.nonterminal hstatement)
  | cons v keep =>
    obtain ⟨rfl, _⟩ := List.cons.inj hupper
    have hinner := @Continues.inner origin first own joined
      ((u :: keep) ++ [.node r.phrase r.layout children]) h (by simpa using hu)
    simpa using hinner

/-- Between statements nothing is completed but the programs. -/
theorem Joins.reduces_program {own joined : List Tree} {s s' kept : Stack} {k : Terminal}
    {r : Reduction} (h : Joins origin first own joined) (hv : Viable s) (hv' : Viable s')
    (hs : s.forest = own) (hs' : s'.forest = joined) (asks : reduction? s.state k = some r)
    (hr : Reduces r s kept) : ∃ r' kept',
      reduction? s'.state k = some r' ∧ Reduces r' s' kept' ∧
      Continues origin first kept.forest kept'.forest := by
  subst hs hs'
  obtain ⟨below, children, c⟩ := hr.exists_completed hv asks
  have hask := (Automaton.begins_of_walk h.ownWord hv.walk_forest k).completes
  rw [asks] at hask
  split at hask
  · next hkind =>
    subst hkind
    have hask' := (Automaton.begins_of_walk h.word hv'.walk_forest .endOfText).completes
    rw [if_pos rfl] at hask'
    obtain ⟨kept', _, hr'⟩ := hv'.reduce hask'
    obtain ⟨below', children', c'⟩ := hr'.exists_completed hv' hask'
    refine ⟨_, kept', hask', hr', ?_⟩
    obtain rfl := Option.some.inj hask
    have hwhole : ∀ {forest kept below children : List Tree} {r : Reduction},
        Completed r forest kept below children → r = ⟨.program, (forest.map Tree.symbol).length, .plain⟩ →
          kept = [.node .program .plain forest] := by
      rintro forest kept below children r c rfl
      have hlength := congrArg List.length c.split
      have hcount : children.length = (forest.map Tree.symbol).length := c.count
      rw [List.length_append, hcount, List.length_map] at hlength
      obtain rfl : below = [] := List.length_eq_zero_iff.1 (by omega)
      rw [c.whole, c.split, List.nil_append]
      rfl
    rw [hwhole c rfl, hwhole c' rfl]
    exact .whole h
  · cases hask

/-- The statements that lie on a stack below another one, and what lies below them. -/
theorem exists_statements {trees : List Tree} (h : trees.map Tree.symbol ∈ programWords) :
    ∃ front list, trees = front ++ list ∧
      front.map Tree.symbol ++ [.nonterminal .statements] ∈ programWords ∧
      (list = [] ∨ list.map Tree.symbol = [.nonterminal .statements]) ∧
      list.length + 1 = if .nonterminal .statements ∈ trees.map Tree.symbol then 2 else 1 := by
  rw [Automaton.programWords_eq] at h ⊢
  cases hlast : decide (.nonterminal .statements ∈ trees.map Tree.symbol) with
  | false =>
    have hnot := of_decide_eq_false hlast
    rw [if_neg hnot]
    refine ⟨trees, [], (List.append_nil trees).symm, ?_, .inl rfl, rfl⟩
    simp only [List.mem_cons, List.not_mem_nil, or_false] at h
    rcases h with h | h | h | h <;> rw [h] at hnot ⊢ <;> simp at hnot ⊢
  | true =>
    have hmem := of_decide_eq_true hlast
    rw [if_pos hmem]
    simp only [List.mem_cons, List.not_mem_nil, or_false] at h
    rcases h with h | h | h | h
    · simp [h] at hmem
    · obtain ⟨vars, rest, rfl, hvars, hrest⟩ := List.map_eq_cons_iff.1 h
      refine ⟨[vars], rest, rfl, by simp [hvars], .inr hrest, ?_⟩
      simpa using congrArg List.length hrest
    · simp [h] at hmem
    · exact ⟨[], trees, rfl, by simp, .inr h, by simpa using congrArg List.length h⟩

/-- Behind a statement it is put to the statements before it. -/
theorem Completed.statement {trees front list kept below children : List Tree} {t : Tree} {r : Reduction}
    (c : Completed r (trees ++ [t]) kept below children) (split : trees = front ++ list)
    (count : list.length + 1 = r.arity) (phrase : r.phrase = .statements) (layout : r.layout = .plain) :
    kept = front ++ [.node .statements .plain (list ++ [t])] := by
  have hsplit : front ++ (list ++ [t]) = below ++ children := by
    rw [← c.split, split, List.append_assoc]
  obtain ⟨rfl, rfl⟩ := List.append_inj' hsplit (by rw [c.count, ← count, List.length_append]; rfl)
  rw [c.whole, phrase, layout]

/-- What a statement unrolls to with the statements before it. -/
theorem unrolledAll_statement {front list : List Tree} (t : Tree) :
    Tree.unrolledAll (front ++ [.node .statements .plain (list ++ [t])]) =
      Tree.unrolledAll (front ++ list) ++ t.unrolled := by
  have hnode : (Tree.node .statements .plain (list ++ [t])).unrolled =
      Tree.unrolledAll (list ++ [t]) := by
    rw [Tree.unrolled, if_pos rfl]
  simp [Tree.unrolledAll_append, Tree.unrolledAll, hnode]

/-- Behind a statement both runs put it to the statements before it. -/
theorem Joins.reduces_statement {own joined : List Tree} {t : Tree} {s s' kept : Stack} {k : Terminal}
    {r : Reduction} (h : Joins origin first own joined) (isStatement : t.symbol = .nonterminal .statement)
    (hv : Viable s) (hv' : Viable s') (hs : s.forest = own ++ [t])
    (hs' : s'.forest = joined ++ [t.moved origin]) (asks : reduction? s.state k = some r)
    (hr : Reduces r s kept) : ∃ r' kept',
      reduction? s'.state k = some r' ∧ Reduces r' s' kept' ∧
      Continues origin first kept.forest kept'.forest := by
  have hwalk := hv.walk_forest
  have hwalk' := hv'.walk_forest
  rw [hs, List.map_append, List.map_singleton, isStatement] at hwalk
  rw [hs', List.map_append, List.map_singleton, Tree.symbol_moved, isStatement] at hwalk'
  have hask := (Automaton.ended_of_walk h.ownWord hwalk k).completes
  have hask' := (Automaton.ended_of_walk h.word hwalk' k).completes
  rw [asks] at hask
  by_cases hkind : k ∈ closers
  · rw [if_pos hkind] at hask hask'
    obtain rfl := Option.some.inj hask
    obtain ⟨kept', _, hr'⟩ := hv'.reduce hask'
    obtain ⟨below, children, c⟩ := hr.exists_completed hv asks
    obtain ⟨below', children', c'⟩ := hr'.exists_completed hv' hask'
    obtain ⟨front, list, hfront, _, _, hcount⟩ := exists_statements h.ownWord
    obtain ⟨front', list', hfront', hword', _, hcount'⟩ := exists_statements h.word
    rw [hs] at c
    rw [hs'] at c'
    have hkept := c.statement hfront hcount rfl rfl
    have hkept' := c'.statement hfront' hcount' rfl rfl
    obtain rfl : front = [] := by
      rcases h.list with rfl | hown
      · exact (List.append_eq_nil_iff.1 hfront.symm).1
      · have hmem : .nonterminal .statements ∈ own.map Tree.symbol := by simp [hown]
        rw [if_pos hmem] at hcount
        have hlength := congrArg List.length hown
        rw [hfront, List.length_map, List.length_append, List.length_singleton] at hlength
        exact List.length_eq_zero_iff.1 (by omega)
    have hjoins : Joins origin first [.node .statements .plain (list ++ [t])]
        (front' ++ [.node .statements .plain (list' ++ [t.moved origin])]) := by
      refine ⟨.inr rfl, ?_, by simp, ?_⟩
      · simpa [Tree.symbol] using hword'
      · have hown := @unrolledAll_statement [] list t
        rw [List.nil_append] at hown
        rw [unrolledAll_statement, hown, ← hfront, ← hfront', h.same, List.map_append,
          Tree.unrolled_moved, Tree.movedAll_eq, List.append_assoc]
    refine ⟨_, kept', hask', hr', ?_⟩
    rw [hkept, hkept']
    simpa using @Continues.inner origin first _ _ [] hjoins (by simp)
  · rw [if_neg hkind] at hask
    cases hask

/-- What the run over the second program completes, the run over both programs completes. -/
theorem Continues.reduces {s s' kept : Stack} {k : Terminal} {r : Reduction}
    (h : Continues origin first s.forest s'.forest) (hv : Viable s) (hv' : Viable s')
    (asks : reduction? s.state k = some r) (hr : Reduces r s kept) : ∃ r' kept',
      reduction? s'.state k = some r' ∧ Reduces r' s' kept' ∧
      Continues origin first kept.forest kept'.forest := by
  generalize hs : s.forest = forest at h
  generalize hs' : s'.forest = forest' at h
  cases h with
  | @inner own joined upper joins begins =>
    cases upper with
    | nil =>
      rw [List.append_nil] at hs
      rw [List.map_nil, List.append_nil] at hs'
      exact joins.reduces_program hv hv' hs hs' asks hr
    | cons u upper => exact joins.reduces (begins u rfl) hv hv' hs hs' asks hr
  | closed joins isStatement => exact joins.reduces_statement isStatement hv hv' hs hs' asks hr
  | whole =>
    have hwalk := hv.walk_forest
    rw [hs] at hwalk
    have hstate : s.state = Automaton.final := Option.some.inj (hwalk.symm.trans walk_program)
    rw [hstate, Automaton.reduction?_final _ (Terminal.mem_all k)] at asks
    cases asks

/-- What a token makes of the forests of a run over the second program and of the run over both. -/
inductive Ending.Continues (origin : Point) (first : List Tree) : Ending → Ending → Prop where
  | pushed {s s' : Stack} (h : Parser.Continues origin first s.forest s'.forest) :
      Ending.Continues origin first (.pushed s) (.pushed s')
  | accepted {root root' : Tree} {own joined : List Tree} (h : Joins origin first own joined)
      (sifted : root.sifted = .node .program .plain own)
      (sifted' : root'.sifted = .node .program .plain joined) :
      Ending.Continues origin first (.accepted root) (.accepted root')

/-- A token that the run over the second program pushes is pushed by the run over both. -/
theorem Continues.shifts {s s' : Stack} {token : Token} {next : Nat}
    (h : Continues origin first s.forest s'.forest) (hv : Viable s) (hv' : Viable s')
    (noVars : token.kind ≠ .kwVars) (leads : leads? s.state (.terminal token.kind) = some next) :
    ∃ next', leads? s'.state (.terminal token.kind) = some next' ∧
      Continues origin first (s.forest ++ [.leaf token]) (s'.forest ++ [.leaf (token.moved origin)]) := by
  generalize hs : s.forest = forest at h
  generalize hs' : s'.forest = forest' at h
  have hwalk := hv.walk_forest
  have hwalk' := hv'.walk_forest
  cases h with
  | @inner own joined upper joins begins =>
    have hinner : ∀ t ∈ (upper ++ [Tree.leaf token]).head?, t.symbol ∈ openers →
        Continues origin first (own ++ upper ++ [.leaf token])
          (joined ++ upper.map (·.moved origin) ++ [.leaf (token.moved origin)]) := by
      intro t ht hopener
      have h := @Continues.inner origin first own joined (upper ++ [Tree.leaf token]) joins fun u hu =>
        Option.some.inj (ht.symm.trans hu) ▸ hopener
      rw [List.map_append, List.map_singleton, Tree.moved] at h
      rwa [List.append_assoc, List.append_assoc]
    cases upper with
    | nil =>
      rw [hs, List.append_nil] at hwalk
      rw [hs', List.map_nil, List.append_nil] at hwalk'
      have hopens := ((Automaton.begins_of_walk joins.ownWord hwalk token.kind).pushes
        (Option.isSome_of_eq_some leads)).resolve_left noVars
      obtain ⟨next', hnext'⟩ := Option.isSome_iff_exists.1
        ((Automaton.begins_of_walk joins.word hwalk' token.kind).opens hopens.1)
      exact ⟨next', hnext', hinner _ rfl hopens.1⟩
    | cons u upper =>
      rw [← joins.state_eq (begins u rfl) hv hv' hs hs'] at leads
      exact ⟨next, leads, hinner u rfl (begins u rfl)⟩
  | closed joins isStatement =>
    rw [hs, List.map_append, List.map_singleton, isStatement] at hwalk
    have hnone := (Automaton.ended_of_walk joins.ownWord hwalk token.kind).holds
    rw [leads] at hnone
    cases hnone
  | whole =>
    have hfinal : ∀ t ∈ Terminal.all, leads? Automaton.final (.terminal t) = none := by decide +kernel
    rw [hs] at hwalk
    have hstate : s.state = Automaton.final := Option.some.inj (hwalk.symm.trans walk_program)
    rw [hstate, hfinal _ (Terminal.mem_all _)] at leads
    cases leads

/-- What the machine makes of a forest of the second program, it makes of one of both programs. -/
theorem Settles.continues {token : Token} {s s' : Stack} {e : Ending} (hs : Settles token s e)
    (h : Continues origin first s.forest s'.forest) (hv : Viable s) (hv' : Viable s')
    (noVars : token.kind ≠ .kwVars) :
    ∃ e', Settles (token.moved origin) s' e' ∧ Ending.Continues origin first e e' := by
  induction hs generalizing s' with
  | pass comment =>
    refine ⟨_, .pass comment, .pushed ?_⟩
    have comment' : (token.moved origin).kind.isComment = true := comment
    rwa [Stack.forest_comment comment, Stack.forest_comment comment']
  | shift plain leads =>
    obtain ⟨next', leads', hcontinues⟩ := h.shifts hv hv' noVars leads
    refine ⟨_, .shift plain leads', .pushed ?_⟩
    have plain' : (token.moved origin).kind.isComment = false := plain
    rwa [Stack.forest_token plain, Stack.forest_token plain']
  | reduce plain asks reduces _ ih =>
    obtain ⟨r', kept', asks', reduces', hkept⟩ := h.reduces hv hv' asks reduces
    obtain ⟨e', hsettles, hcontinues⟩ := ih hkept (hv.of_reduces reduces) (hv'.of_reduces reduces')
    exact ⟨e', .reduce plain asks' reduces' hsettles, hcontinues⟩
  | @accept s upper lower layout children final kind alone above under =>
    have haccepts : Settles token s _ := .accept final kind alone above under
    obtain ⟨layout', trees, hforest⟩ := hv.forest_of_final final
    rw [hforest] at h
    generalize hone : [Tree.node .program layout' trees] = one at h
    generalize hs' : s'.forest = forest' at h
    have hnot : .nonterminal .program ∉ openers := by decide
    have hwords : ∀ w ∈ programWords, .nonterminal .program ∉ w := by simp [Automaton.programWords_eq]
    cases h with
    | @inner own joined upper' joins begins =>
      rcases List.singleton_eq_append_iff.1 hone with ⟨rfl, rfl⟩ | ⟨rfl, rfl⟩
      · exact absurd (begins _ rfl) hnot
      · exact absurd (by simp [Tree.symbol]) (hwords _ joins.ownWord)
    | closed joins isStatement =>
      rcases List.singleton_eq_append_iff.1 hone with ⟨rfl, h⟩ | ⟨_, h⟩
      · obtain rfl := (List.cons.inj h).1
        cases isStatement
      · cases h
    | whole joins =>
      obtain ⟨root', haccepts', hsifted'⟩ := @Viable.accepts_of_program (token.moved origin) _ hv' _ _ hs' kind
      refine ⟨_, haccepts', .accepted joins ?_ hsifted'⟩
      have hsifted := haccepts.sifted_of_program hv hforest
      rw [hsifted, (List.cons.inj hone).1]

end Numscript.Parser
