import Numscript.Proofs.Parser.Trail

/-!
# Two programs behind one another

Where a run accepts a program, and another one a program without variables, a run over both with a line feed
between them accepts a program over the statements of both.
-/
namespace Numscript.Parser

/-- A program over the statements of two programs, of which the second one begins at a point. -/
structure Concatenated (origin : Point) (root root' whole : Tree) : Prop where
  parts : ∃ own own' joined, root.sifted = .node .program .plain own ∧
    root'.sifted = .node .program .plain own' ∧ whole.sifted = .node .program .plain joined ∧
    Tree.unrolledAll joined = Tree.unrolledAll own ++ (Tree.unrolledAll own').map (·.moved origin)

/-- Where a run accepts, a run over the text, a line feed and more text begins with the same tokens. -/
theorem Accepts.exists_follows {text : List Glyph} {tokens : List Token} {root : Tree}
    (h : Accepts text tokens root) (more : List Glyph) : ∃ own r,
      root.sifted = .node .program .plain own ∧
      Follows text more (Tree.unrolledAll own) tokens [] [] [] r := by
  obtain @⟨r, before, rest, token, stack, _, reads, split, place, read, completes, accepts⟩ := h
  have hv := reads.viable
  have hdoes : r.Does rest token (.accepted root) :=
    ⟨hv, read, (Ends.accepted completes accepts).settles hv⟩
  obtain ⟨own, hsifted, hcloses⟩ :=
    hdoes.settles.exists_closes hv (unfinished_of_reaches reads.reaches)
  have hgap := @isGap_lead before rest
  rw [← place] at hgap
  have hlead := Lexer.lead_append_body r.point rest
  rw [hdoes.over_iff.1 hdoes.settles.kind_of_accepted, List.append_nil] at hlead
  rw [hlead] at hgap
  refine ⟨own, r, hsifted, ?_, ⟨before, rest ++ [.lineFeed], place, ?_, ?_⟩, .inl ⟨rfl, hcloses⟩⟩
  · rw [List.map_nil, List.append_nil]
    exact reads.lengthen more split place fun behind => hv.head?_ne_star behind read hdoes.settles
  · rw [split, List.append_assoc]
  · exact hgap.append (by decide)

/-- A run accepts a program, a line feed, and a program without variables. -/
theorem Accepts.concatenated {text more : List Glyph} {tokens tokens' : List Token} {root root' : Tree}
    (h : Accepts text tokens root) (h' : Accepts more tokens' root')
    (unmarked : more.head? ≠ some .byteOrderMark) (noVars : ∀ t ∈ tokens', t.kind ≠ .kwVars) :
    ∃ whole, Accepts (text ++ .lineFeed :: more)
        (tokens ++ tokens'.map (·.moved (Point.origin.behind (text ++ [.lineFeed])))) whole ∧
      Concatenated (Point.origin.behind (text ++ [.lineFeed])) root root' whole := by
  obtain ⟨own, r₀, hsifted, hstart⟩ := h.exists_follows more
  obtain @⟨r, before, rest, token, stack, _, reads, split, place, read, completes, accepts⟩ := h'
  obtain ⟨r', hfollows⟩ := reads.follows hstart split place unmarked noVars
  have hdoes : r.Does rest token (.accepted root') :=
    ⟨reads.viable, read, (Ends.accepted completes accepts).settles reads.viable⟩
  have hplain : token.kind ≠ .kwVars := by
    rw [hdoes.settles.kind_of_accepted]
    decide
  obtain ⟨passed, behind, e', hsplit, hplace, hdoes', hends⟩ :=
    hfollows.does split place hdoes unmarked hplain
  cases hends with
  | @accepted _ whole own' joined joins sifted sifted' =>
    cases hdoes'.settles.ends hdoes'.viable with
    | accepted completes' accepts' =>
      exact ⟨whole, .mk hfollows.reads hsplit hplace hdoes'.read completes' accepts',
        ⟨own, own', joined, hsifted, sifted, sifted', joins.same⟩⟩

/-! ### The children of programs -/

/-- What the machine puts into a program: the declaration of its variables, its statements, and comments. -/
theorem Recognises.found {text : List Glyph} {root : Tree} (h : Recognises text root) :
    ∃ children, root = .node .program .plain children ∧ ∀ c ∈ children, c.Found ∧
      (c.isComment = true ∨ c.symbol = .nonterminal .varsDeclaration ∨
        c.symbol = .nonterminal .statements) := by
  have hproductions : ∀ p ∈ Grammar.productions .program, Automaton.rolesOf p = .plain ∧
      ∀ x ∈ Automaton.Reduction.children p,
        x = .nonterminal .varsDeclaration ∨ x = .nonterminal .statements := by
    decide +kernel
  obtain ⟨layout, _, rfl, htrimmed⟩ := h.trimmed
  obtain ⟨_, before, inner, behind, hroot, comments, hspelt⟩ :=
    h.exists_program Tree.Spelt.leaf Fill.spelt
  obtain ⟨-, rfl, rfl⟩ := Tree.node.inj hroot
  generalize ht : Tree.node .program layout inner = t at hspelt
  cases hspelt with
  | leaf => cases ht
  | @node n p _ spelt symbols below =>
    obtain ⟨rfl, rfl, rfl⟩ := Tree.node.inj ht
    obtain ⟨hplain, hsymbols⟩ := hproductions p spelt
    refine ⟨_, by rw [hplain], fun c hc => ?_⟩
    cases hcomment : c.isComment with
    | true =>
      cases c with
      | leaf token => exact ⟨.leaf token, .inl rfl⟩
      | node => cases hcomment
    | false =>
      have hinner : c ∈ inner := by
        simp only [List.mem_append] at hc comments
        rcases hc with (hc | hc) | hc
        · simp [comments c (.inl hc)] at hcomment
        · exact hc
        · simp [comments c (.inr hc)] at hcomment
      refine ⟨⟨htrimmed c hc, below c hinner, Tree.ne_program_of_spelt spelt symbols hinner hcomment⟩,
        .inr (hsymbols _ (symbols ▸ Tree.mem_structural hinner hcomment))⟩

/-- The statements of both programs, and the comments, are what stands below the program over both. -/
theorem Concatenated.unrolled {origin : Point} {children children' joined : List Tree}
    (h : Concatenated origin (.node .program .plain children) (.node .program .plain children')
      (.node .program .plain joined))
    (found : ∀ c ∈ children, c.Found) (found' : ∀ c ∈ children', c.Found) (foundAll : ∀ c ∈ joined, c.Found)
    (tokens : Tree.tokensOfAll joined =
      Tree.tokensOfAll children ++ (Tree.tokensOfAll children').map (·.moved origin)) :
    Tree.unrolledAll joined =
      Tree.unrolledAll children ++ (Tree.unrolledAll children').map (·.moved origin) := by
  obtain ⟨own, own', whole, hown, hown', hwhole, same⟩ := h.parts
  obtain ⟨-, -, rfl⟩ := Tree.node.inj hown
  obtain ⟨-, -, rfl⟩ := Tree.node.inj hown'
  obtain ⟨-, -, rfl⟩ := Tree.node.inj hwhole
  refine Tree.Found.all_eq_of_tokens _ _ (Tree.found_unrolledAll foundAll) ?_ ?_ ?_
  · rw [List.forall_mem_append, List.forall_mem_map]
    exact ⟨Tree.found_unrolledAll found, fun c hc => (Tree.found_unrolledAll found' c hc).moved origin⟩
  · rw [Tree.siftedAll_append, ← Tree.movedAll_eq, Tree.siftedAll_moved, Tree.siftedAll_unrolledAll,
      Tree.siftedAll_unrolledAll, Tree.siftedAll_unrolledAll, same, Tree.movedAll_eq]
  · rw [Tree.tokensOfAll_eq (_ ++ _), List.flatMap_append, ← Tree.tokensOfAll_eq, ← Tree.tokensOfAll_eq,
      ← Tree.movedAll_eq, Tree.tokensOfAll_moved, Tree.tokens_unrolledAll, Tree.tokens_unrolledAll,
      Tree.tokens_unrolledAll, tokens]

end Numscript.Parser
