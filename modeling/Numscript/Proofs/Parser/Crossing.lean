import Numscript.Proofs.Parser.Twin

/-!
# Crossings

What twins do where the two ways out of the conflict part, and where they come together again: at the word
`remaining`, at the brace that closes its clause, and behind that brace, where both ways complete a
destination in the same place and the two readings of the braces are kin.
-/
namespace Numscript.Parser

open Automaton (Reduction Crossing crossings conflicts twinPairs shutPairs turnedPairs leads? goto? reduction?
  onlyReduces)

/-- Where the two ways out of the conflict are told apart at once. -/
def seams : List (Nat × Nat) := conflicts ++ shutPairs ++ turnedPairs

/-- Every seam belongs to one kind of pairs, and on it the sides are told apart. -/
theorem seams_apart : (∀ p ∈ conflicts, p ∉ shutPairs ∧ p ∉ turnedPairs) ∧
    (∀ p ∈ shutPairs, p ∉ conflicts ∧ p ∉ turnedPairs) ∧
    (∀ p ∈ seams, p ∈ twinPairs) := by decide

theorem crossings_seams : ∀ x ∈ crossings, (x.word, 518) ∈ conflicts ∧
    (x.closing, x.closing') ∈ shutPairs ∧ (x.target, 398) ∈ twinPairs ∧ (x.target, 398) ∉ seams ∧
    (∀ y ∈ crossings, (y.word = x.word → y = x) ∧ (y.closing = x.closing → y = x)) ∧
    x.opening ≠ Automaton.start ∧ x.word ≠ Automaton.start ∧ x.target ≠ Automaton.start ∧
    x.closing ≠ Automaton.start := by decide

/-- Twins that do not meet at a seam hold kin trees on top, read from twins below. -/
theorem Twin.read_of {s t : Stack} (h : Twin s t) (first : (s.state, t.state) ∉ seams)
    (second : (t.state, s.state) ∉ seams) (plain : ∀ x ∈ s.head?, x.tree.isComment = false) :
    s = [] ∧ t = [] ∨ ∃ (n m : Nat) (c d : Tree) (a b : Stack), s = ⟨n, c⟩ :: a ∧
      t = ⟨m, d⟩ :: b ∧ Twin a b ∧ d.symbol = c.symbol ∧ Kin c d ∧
      leads? a.state c.symbol = some n ∧ leads? b.state c.symbol = some m := by
  cases h with
  | empty => exact .inl ⟨rfl, rfl⟩
  | comment below hc => simp [hc] at plain
  | @read a b c d n m below _ _ symbol kin leads leads' =>
    exact .inr ⟨n, m, c, d, a, b, rfl, rfl, below, symbol, kin, leads, leads'⟩
  | opened _ mem =>
    exact absurd (List.mem_append_left _ (List.mem_append_left _ (crossings_seams _ mem).1)) first
  | opened' _ mem =>
    exact absurd (List.mem_append_left _ (List.mem_append_left _ (crossings_seams _ mem).1)) second
  | shut _ mem =>
    exact absurd (List.mem_append_left _ (List.mem_append_right _ (crossings_seams _ mem).2.1)) first
  | shut' _ mem =>
    exact absurd (List.mem_append_left _ (List.mem_append_right _ (crossings_seams _ mem).2.1)) second
  | turned _ _ _ _ _ pair => exact absurd (List.mem_append_right _ pair) first
  | turned' _ _ _ _ _ pair => exact absurd (List.mem_append_right _ pair) second

theorem not_mem_seams (q : Nat) : (q, q) ∉ seams := fun hq =>
  Automaton.twinPairs_sides _ (seams_apart.2.2 _ hq) _ (seams_apart.2.2 _ hq) rfl

theorem not_mem_seams_swapped {a b : Nat} (h : (a, b) ∈ twinPairs) : (b, a) ∉ seams := fun hq =>
  Automaton.twinPairs_sides _ h _ (seams_apart.2.2 _ hq) rfl

/-- What enters a state of a crossing. -/
theorem enters {x : Crossing} (mem : x ∈ crossings) {q n : Nat} {y : Symbol}
    (h : leads? q y = some n) :
    (n = x.opening → y = .terminal .lbrace) ∧
    (n = x.word → q = x.opening ∧ y = .terminal .kwRemaining) ∧
    (n = x.target → q = x.word ∧ y = .nonterminal .keptOrDestination) ∧
    (n = x.closing → q = x.target ∧ y = .terminal .rbrace) ∧
    (n = x.closing' → q = x.clauses ∧ y = .terminal .rbrace) ∧
    (n = 518 → y = .nonterminal .allotment) ∧
    (n = 398 → q = 518 ∧ y = .nonterminal .keptOrDestination) := by
  have henters := Automaton.entersCrossing_of_leads h
  simp only [Automaton.entersCrossing, Bool.and_eq_true, List.all_eq_true, Bool.or_eq_true,
    bne_iff_ne, beq_iff_eq] at henters
  obtain ⟨⟨hall, hshare⟩, hclause⟩ := henters
  obtain ⟨⟨⟨⟨⟨hopening, hword⟩, htarget⟩, hclosing⟩, _⟩, hclosing'⟩ := hall x mem
  exact ⟨fun e => hopening.resolve_left (not_not.2 e), fun e => hword.resolve_left (not_not.2 e),
    fun e => htarget.resolve_left (not_not.2 e), fun e => hclosing.resolve_left (not_not.2 e),
    fun e => hclosing'.resolve_left (not_not.2 e), fun e => hshare.resolve_left (not_not.2 e),
    fun e => hclause.resolve_left (not_not.2 e)⟩

theorem leaf_of_symbol {c : Tree} {t : Terminal} (h : c.symbol = .terminal t) :
    ∃ w, c = .leaf w ∧ w.kind = t := by
  cases c with
  | leaf w => exact ⟨w, rfl, Symbol.terminal.inj h⟩
  | node => cases h

theorem Kin.eq_leaf {w : Token} {d : Tree} (h : Kin (.leaf w) d) : d = .leaf w := by
  generalize hc : Tree.leaf w = c at h
  cases h with
  | leaf => exact hc.symm ▸ rfl
  | node => cases hc
  | turned => cases hc
  | returned => cases hc

/-- Twins with the same state on top, which only one token leads to. -/
theorem Twin.behind {s t : Stack} {q : Nat} {kind : Terminal} (h : Twin s t)
    (hs : s.state = q) (ht : t.state = q) (start : q ≠ Automaton.start)
    (only : ∀ {p : Nat} {y : Symbol}, leads? p y = some q → y = .terminal kind) :
    ∃ (comments : List Tree) (w : Token) (a b : Stack), (∀ c ∈ comments, c.isComment = true) ∧
      s = strew q comments ++ ⟨q, .leaf w⟩ :: a ∧ t = strew q comments ++ ⟨q, .leaf w⟩ :: b ∧
      w.kind = kind ∧ Twin a b ∧ leads? a.state (.terminal kind) = some q ∧
      leads? b.state (.terminal kind) = some q := by
  obtain ⟨comments, b, c, hcomments, hsb, htc, hb, hc, htwin, hplain, _⟩ := h.peel
  rw [hs] at hsb hb
  rw [ht] at htc hc
  have hseam : (b.state, c.state) ∉ seams := by
    rw [hb, hc]
    exact not_mem_seams q
  have hseam' : (c.state, b.state) ∉ seams := by
    rw [hb, hc]
    exact not_mem_seams q
  rcases htwin.read_of hseam hseam' hplain with ⟨rfl, _⟩ | ⟨n, m, x, d, a, a', rfl, rfl,
      hbelow, hsymbol, hkin, leads, leads'⟩
  · exact absurd hb.symm start
  · obtain rfl : n = q := hb
    obtain rfl : m = n := hc
    have hy := only leads
    obtain ⟨w, rfl, hw⟩ := leaf_of_symbol hy
    obtain rfl := Kin.eq_leaf hkin
    rw [hy] at leads leads'
    exact ⟨comments, w, a, a', hcomments, hsb, htc, hw, hbelow, leads, leads'⟩

/-- A branch from a state that does nothing but a reduction. -/
theorem Settles.only {token : Token} {s : Stack} {e : Ending} {q : Nat} {r : Reduction}
    (h : Settles token s e) (top : s.state = q) (plain : token.kind.isComment = false)
    (only : onlyReduces q r = true) : ∃ kept, Reduces r s kept ∧ Settles token kept e := by
  subst top
  obtain ⟨hfinal, honly⟩ := Automaton.onlyReduces_spec only
  obtain ⟨hleads, hreduces⟩ := honly token.kind
  cases h with
  | pass comment =>
    rw [plain] at comment
    cases comment
  | shift _ leads =>
    rw [hleads] at leads
    cases leads
  | reduce _ asks reduces rest =>
    obtain rfl := hreduces _ asks
    exact ⟨_, reduces, rest⟩
  | accept final => exact absurd final hfinal

/-- A branch from a state that does not reduce. -/
theorem Settles.shifts {token : Token} {s : Stack} {e : Ending} {q : Nat} (h : Settles token s e)
    (top : s.state = q) (plain : token.kind.isComment = false)
    (none : reduction? q token.kind = none) (final : q ≠ Automaton.final) : ∃ next,
      leads? q (.terminal token.kind) = some next ∧ e = .pushed (⟨next, .leaf token⟩ :: s) := by
  subst top
  cases h with
  | pass comment =>
    rw [plain] at comment
    cases comment
  | shift _ leads => exact ⟨_, leads, rfl⟩
  | reduce _ asks _ _ =>
    rw [none] at asks
    cases asks
  | accept hfinal => exact absurd hfinal final

theorem isComment_share (w : Token) : (Braces.share w).isComment = false := rfl

/-- The branch that reduces at the conflict comes to a share, and pushes the token behind it. -/
theorem Settles.shares {token : Token} {x : Crossing} (mem : x ∈ crossings)
    {comments : List Tree} {w : Token} {b kept : Stack} {r : Reduction} {e : Ending}
    (hc : ∀ c ∈ comments, c.isComment = true) (kind : w.kind = .kwRemaining)
    (below : b.state = x.opening) (plain : token.kind.isComment = false)
    (asks : reduction? x.word token.kind = some r)
    (reduces : Reduces r (strew x.word comments ++ ⟨x.word, .leaf w⟩ :: b) kept)
    (h : Settles token kept e) : ∃ next, leads? 518 (.terminal token.kind) = some next ∧
      e = .pushed (⟨next, .leaf token⟩ :: (strew 518 comments ++ ⟨518, Braces.share w⟩ :: b)) := by
  obtain ⟨_, _, hgoto, hgoto', _, _, _, _, _, hword⟩ := Automaton.crossings_do x mem
  obtain ⟨honly, _, _, hshare⟩ := Automaton.clauses_do
  obtain rfl := hword _ (Terminal.mem_all _) _ asks
  have hleaf : (Tree.leaf w).isComment = false := by simp [Tree.isComment, kind, Terminal.isComment]
  obtain ⟨n, hn, rfl⟩ := reduces.eq_of_single hc hleaf rfl
  rw [below, hgoto] at hn
  obtain rfl := Option.some.inj hn
  obtain ⟨kept', reduces', h'⟩ := h.only (state_strew_cons _ _ _ _) plain honly
  obtain ⟨m, hm, rfl⟩ := reduces'.eq_of_single hc rfl rfl
  rw [below, hgoto'] at hm
  obtain rfl := Option.some.inj hm
  exact h'.shifts (state_strew_cons _ _ _ _) plain (hshare _ (Terminal.mem_all _)) (by decide)

/-- The branch of an allotment whose only clause a brace closes. -/
theorem Settles.closes {token : Token} {x : Crossing} (mem : x ∈ crossings)
    {between behind : List Tree} {w : Token} {target : Tree} {b : Stack} {e : Ending}
    (comments : ∀ c ∈ between ++ behind, c.isComment = true) (below : b.state = x.opening)
    (plain : target.isComment = false) (kind : token.kind = .rbrace)
    (h : Settles token (strew 398 behind ++
      ⟨398, target⟩ :: (strew 518 between ++ ⟨518, Braces.share w⟩ :: b)) e) :
    e = .pushed (⟨x.closing', .leaf token⟩ :: (strew x.clauses behind ++
      ⟨x.clauses, Braces.clauses w between.reverse target⟩ :: b)) := by
  obtain ⟨_, _, _, _, hclause, hclauses, _, hclosing, hnone, _⟩ := Automaton.crossings_do x mem
  obtain ⟨_, honly, honly', _⟩ := Automaton.clauses_do
  have hplain : token.kind.isComment = false := by rw [kind]; rfl
  have hbetween : ∀ c ∈ between, c.isComment = true := fun c hc =>
    comments c (List.mem_append_left _ hc)
  have hbehind : ∀ c ∈ behind, c.isComment = true := fun c hc =>
    comments c (List.mem_append_right _ hc)
  obtain ⟨kept, reduces, h⟩ := h.only (state_strew_cons _ _ _ _) hplain honly
  have hcount : Stack.plain (⟨398, target⟩ :: strew 518 between) = [⟨398, target⟩] := by
    have hnone : (strew 518 between).filter (fun f => !f.tree.isComment) = [] :=
      List.filter_eq_nil_iff.2 fun f hf => by simp [isComment_strew hbetween f hf]
    simp [Stack.plain, plain, hnone]
  have htarget : ∀ f ∈ (⟨398, target⟩ :: strew 518 between : Stack).head?,
      f.tree.isComment = false := by simpa using plain
  have htwo : (Stack.plain (⟨398, target⟩ :: strew 518 between)).length + 1 = 2 := by rw [hcount]; rfl
  rw [← List.cons_append] at reduces
  obtain ⟨n, hn, rfl⟩ := reduces.eq_of_taken hbehind htarget (isComment_share w) htwo
  rw [below, hclause] at hn
  obtain rfl := Option.some.inj hn
  obtain ⟨kept', reduces', h⟩ := h.only (state_strew_cons _ _ _ _) hplain honly'
  obtain ⟨m, hm, rfl⟩ := reduces'.eq_of_single hbehind rfl rfl
  rw [below, hclauses] at hm
  obtain rfl := Option.some.inj hm
  have hfinal : ∀ x ∈ crossings, x.clauses ≠ Automaton.final := by decide
  obtain ⟨next, leads, rfl⟩ := h.shifts (state_strew_cons _ _ _ _) hplain
    (hnone _ (Terminal.mem_all _)) (hfinal x mem)
  rw [kind, hclosing] at leads
  obtain rfl := Option.some.inj leads
  simp [Braces.clauses, tree_strew]

/-- Twins with an open conflict on top. -/
theorem Twin.at_word {s t : Stack} {x : Crossing} (h : Twin s t) (mem : x ∈ crossings)
    (hs : s.state = x.word) (ht : t.state = 518) :
    ∃ (comments : List Tree) (w : Token) (a b : Stack), (∀ c ∈ comments, c.isComment = true) ∧
      s = strew x.word comments ++ ⟨x.word, .leaf w⟩ :: a ∧
      t = strew 518 comments ++ ⟨518, Braces.share w⟩ :: b ∧ w.kind = .kwRemaining ∧
      Twin a b ∧ a.state = x.opening ∧ b.state = x.opening := by
  obtain ⟨comments, b, c, hcomments, hsb, htc, hb, hc, htwin, hplain, _⟩ := h.peel
  rw [hs] at hsb hb
  rw [ht] at htc hc
  obtain ⟨hconflict, _, _, _, honly, _, hstart, _⟩ := crossings_seams x mem
  have hpair : (b.state, c.state) ∈ conflicts := by
    rw [hb, hc]
    exact hconflict
  have hsides : ∀ p ∈ twinPairs, b.state ≠ p.2 := fun p hp =>
    Automaton.twinPairs_sides _ (seams_apart.2.2 _ (List.mem_append_left _
      (List.mem_append_left _ hpair))) p hp
  cases htwin with
  | empty => exact absurd hb.symm hstart
  | comment _ hcomment => simp [hcomment] at hplain
  | read _ _ _ _ _ leads leads' =>
    have hfirst := ((enters mem leads).2.1 hb).2
    have hsecond := (enters mem leads').2.2.2.2.2.1 hc
    rw [hfirst] at hsecond
    cases hsecond
  | opened below mem' at_ at' kind =>
    obtain rfl := (honly _ mem').1 hb
    exact ⟨comments, _, _, _, hcomments, hsb, htc, kind, below, at_, at'⟩
  | opened' _ mem' =>
    have hmem := (crossings_seams _ mem').1
    exact absurd rfl (hsides _ (seams_apart.2.2 _ (List.mem_append_left _
      (List.mem_append_left _ hmem))))
  | shut _ mem' => exact absurd (crossings_seams _ mem').2.1 (seams_apart.1 _ hpair).1
  | shut' _ mem' =>
    have hmem := (crossings_seams _ mem').2.1
    exact absurd rfl (hsides _ (seams_apart.2.2 _ (List.mem_append_left _
      (List.mem_append_right _ hmem))))
  | turned _ _ _ _ _ pair => exact absurd pair (seams_apart.1 _ hpair).2
  | turned' _ _ _ _ _ pair =>
    exact absurd rfl (hsides _ (seams_apart.2.2 _ (List.mem_append_right _ pair)))

theorem Twin.share {s t : Stack} {x : Crossing} {w : Token} (h : Twin s t) (mem : x ∈ crossings)
    (hs : s.state = x.opening) (ht : t.state = x.opening) :
    Twin (⟨518, Braces.share w⟩ :: s) (⟨518, Braces.share w⟩ :: t) := by
  have hgoto := (Automaton.crossings_do x mem).2.2.2.1
  refine .read h (isComment_share w) (isComment_share w) rfl (Kin.refl _) ?_ ?_
  · rw [hs]
    exact hgoto
  · rw [ht]
    exact hgoto

/-- At the conflict, the one of two twins pushes, and the other one reduces. -/
theorem Twin.forks {s t kept : Stack} {x : Crossing} {token : Token} {n : Nat} {r : Reduction}
    {e : Ending} (h : Twin s t) (mem : x ∈ crossings) (hs : s.state = x.word)
    (ht : t.state = x.word) (plain : token.kind.isComment = false)
    (leads : leads? x.word (.terminal token.kind) = some n)
    (asks : reduction? x.word token.kind = some r) (reduces : Reduces r t kept)
    (settles : Settles token kept e) :
    ∃ t', e = .pushed t' ∧ Twin (⟨n, .leaf token⟩ :: s) t' := by
  obtain ⟨_, _, _, _, _, _, hstart, _⟩ := crossings_seams x mem
  obtain ⟨comments, w, a, b, hcomments, rfl, rfl, hw, hbelow, ha, hb⟩ :=
    h.behind hs ht hstart fun hy => ((enters mem hy).2.1 rfl).2
  have hopens := ((enters mem ha).2.1 rfl).1
  have hopens' := ((enters mem hb).2.1 rfl).1
  obtain ⟨next, hnext, rfl⟩ :=
    settles.shares mem hcomments hw hopens' plain asks reduces
  refine ⟨_, rfl, ?_⟩
  have htwin := (Twin.opened hbelow mem hopens hopens' hw).strewn hcomments
  refine .read htwin plain plain rfl (.leaf token) ?_ ?_
  · rw [hs]
    exact leads
  · exact (congrArg (leads? · _) (state_strew_cons _ _ _ _)).trans hnext

/-- Where the first of two twins still stands at the conflict, and reduces now, they are the same. -/
theorem Twin.merges {s t kept : Stack} {x : Crossing} {token : Token} {r : Reduction}
    {e e' : Ending} (h : Twin s t) (mem : x ∈ crossings) (hs : s.state = x.word)
    (ht : t.state = 518) (plain : token.kind.isComment = false)
    (asks : reduction? x.word token.kind = some r) (reduces : Reduces r s kept)
    (settles : Settles token kept e) (settles' : Settles token t e') :
    ∃ s' t', e = .pushed s' ∧ e' = .pushed t' ∧ Twin s' t' := by
  obtain ⟨comments, w, a, b, hcomments, rfl, rfl, hw, hbelow, ha, hb⟩ := h.at_word mem hs ht
  obtain ⟨next, hnext, rfl⟩ := settles.shares mem hcomments hw ha plain asks reduces
  have hnone := Automaton.clauses_do.2.2.2 _ (Terminal.mem_all token.kind)
  obtain ⟨next', hnext', rfl⟩ :=
    settles'.shifts (state_strew_cons _ _ _ _) plain hnone (by decide)
  have htwin := (hbelow.share mem ha hb (w := w)).strewn hcomments
  refine ⟨_, _, rfl, rfl, .read htwin plain plain rfl (.leaf token) ?_ ?_⟩
  · exact (congrArg (leads? · _) (state_strew_cons _ _ _ _)).trans hnext
  · exact (congrArg (leads? · _) (state_strew_cons _ _ _ _)).trans hnext'

/-- At the closing brace, the first of two twins pushes it, and the second one completes its clauses. -/
theorem Twin.shuts {s t : Stack} {x : Crossing} {token : Token} {e : Ending} (h : Twin s t)
    (mem : x ∈ crossings) (hs : s.state = x.target) (ht : t.state = 398)
    (kind : token.kind = .rbrace) (settles : Settles token t e) :
    ∃ t', e = .pushed t' ∧ Twin (⟨x.closing, .leaf token⟩ :: s) t' := by
  obtain ⟨behind, b, c, hbehind, hsb, htc, hb, hc, htwin, hplain, _⟩ := h.peel
  rw [hs] at hsb hb
  rw [ht] at htc hc
  obtain ⟨_, _, hpair, hseam, _, _, _, hstart, _⟩ := crossings_seams x mem
  have hseam' := not_mem_seams_swapped hpair
  rw [← hb, ← hc] at hseam hseam'
  rcases htwin.read_of hseam hseam' hplain with ⟨rfl, _⟩ | ⟨n, m, y, d, a, a', rfl, rfl, hbelow,
      hsymbol, hkin, leads, leads'⟩
  · exact absurd hb.symm hstart
  · obtain rfl : n = x.target := hb
    obtain rfl : m = 398 := hc
    obtain ⟨ha, hy⟩ := (enters mem leads).2.2.1 rfl
    obtain ⟨ha', _⟩ := (enters mem leads').2.2.2.2.2.2 rfl
    obtain ⟨between, w, u, v, hbetween, rfl, rfl, hw, hunder, hu, hv⟩ := hbelow.at_word mem ha ha'
    have hplain' : d.isComment = false := by
      cases d with
      | leaf token =>
        rw [hy] at hsymbol
        cases hsymbol
      | node => rfl
    have hcomments : ∀ c ∈ between ++ behind, c.isComment = true := fun c hc =>
      (List.mem_append.1 hc).elim (hbetween c) (hbehind c)
    rw [htc] at settles
    rw [hsb]
    exact ⟨_, settles.closes mem hcomments hv hplain' kind,
      .shut hunder mem hu hv hw kind hcomments (by simpa using hplain) hkin⟩

theorem plain_strew {q : Nat} {comments : List Tree} (hc : ∀ c ∈ comments, c.isComment = true) :
    Stack.plain (strew q comments) = [] :=
  List.filter_eq_nil_iff.2 fun f hf => by simp [isComment_strew hc f hf]

theorem isComment_reverse {comments : List Tree} (hc : ∀ c ∈ comments, c.isComment = true) :
    ∀ c ∈ comments.reverse, c.isComment = true := fun c h => hc c (List.mem_reverse.1 h)

theorem isComment_leaf {token : Token} {kind : Terminal} (h : token.kind = kind)
    (plain : kind.isComment = false) : (Tree.leaf token).isComment = false := by
  rw [Tree.isComment, h, plain]

/-- The destination in braces that is filled in order. -/
theorem Reduces.inOrder {q m l n o : Nat} (b : Braces) {comments : List Tree} {target : Tree}
    {rest kept : Stack} (hc : ∀ c ∈ comments, c.isComment = true)
    (plain : target.isComment = false)
    (h : Reduces ⟨.destInorder, 4, .plain⟩ (strew n comments ++ ⟨n, .leaf b.closing⟩ ::
      (strew m b.behind.reverse ++ ⟨m, target⟩ :: (strew l b.between.reverse ++ ⟨l, .leaf b.word⟩ ::
        (strew q b.before.reverse ++ ⟨o, .leaf b.opening⟩ :: rest)))) kept) :
    ∃ next, goto? rest.state .destInorder = some next ∧
      kept = strew next comments ++ ⟨next, b.inOrder target⟩ :: rest := by
  have hbefore : ∀ c ∈ b.before, c.isComment = true := fun c hc => b.comments c (by simp [hc])
  have hbetween : ∀ c ∈ b.between, c.isComment = true := fun c hc => b.comments c (by simp [hc])
  have hbehind : ∀ c ∈ b.behind, c.isComment = true := fun c hc => b.comments c (by simp [hc])
  have hmid : ∀ f ∈ (⟨n, .leaf b.closing⟩ :: (strew m b.behind.reverse ++ ⟨m, target⟩ ::
      (strew l b.between.reverse ++ ⟨l, .leaf b.word⟩ :: strew q b.before.reverse)) : Stack).head?,
      f.tree.isComment = false := by
    simpa using isComment_leaf b.closes rfl
  have hcount : (Stack.plain (⟨n, .leaf b.closing⟩ :: (strew m b.behind.reverse ++ ⟨m, target⟩ ::
      (strew l b.between.reverse ++ ⟨l, .leaf b.word⟩ :: strew q b.before.reverse)))).length + 1 =
      4 := by
    have h1 := plain_strew (q := m) (isComment_reverse hbehind)
    have h2 := plain_strew (q := l) (isComment_reverse hbetween)
    have h3 := plain_strew (q := q) (isComment_reverse hbefore)
    simp only [Stack.plain] at h1 h2 h3
    simp [Stack.plain, h1, h2, h3, isComment_leaf b.closes rfl, isComment_leaf b.remains rfl, plain]
  obtain ⟨next, leads, rfl⟩ := @Reduces.eq_of_taken _ _ _ _ rest _ _ hc hmid
    (isComment_leaf b.opens rfl) hcount (by simpa using h)
  refine ⟨next, leads, ?_⟩
  simp [Braces.inOrder, tree_strew]

/-- The destination in braces as an allotment. -/
theorem Reduces.allotment {q m n o : Nat} (b : Braces) {comments : List Tree} {target : Tree}
    {rest kept : Stack} (hc : ∀ c ∈ comments, c.isComment = true)
    (h : Reduces ⟨.destAllotment, 3, .plain⟩ (strew n comments ++ ⟨n, .leaf b.closing⟩ ::
      (strew m b.behind.reverse ++ ⟨m, Braces.clauses b.word b.between target⟩ ::
        (strew q b.before.reverse ++ ⟨o, .leaf b.opening⟩ :: rest))) kept) :
    ∃ next, goto? rest.state .destAllotment = some next ∧
      kept = strew next comments ++ ⟨next, b.allotment target⟩ :: rest := by
  have hbefore : ∀ c ∈ b.before, c.isComment = true := fun c hc => b.comments c (by simp [hc])
  have hbehind : ∀ c ∈ b.behind, c.isComment = true := fun c hc => b.comments c (by simp [hc])
  have hmid : ∀ f ∈ (⟨n, .leaf b.closing⟩ :: (strew m b.behind.reverse ++
      ⟨m, Braces.clauses b.word b.between target⟩ :: strew q b.before.reverse) : Stack).head?,
      f.tree.isComment = false := by
    simpa using isComment_leaf b.closes rfl
  have hclauses : (Braces.clauses b.word b.between target).isComment = false := rfl
  have hcount : (Stack.plain (⟨n, .leaf b.closing⟩ :: (strew m b.behind.reverse ++
      ⟨m, Braces.clauses b.word b.between target⟩ :: strew q b.before.reverse))).length + 1 = 3 := by
    have h1 := plain_strew (q := m) (isComment_reverse hbehind)
    have h2 := plain_strew (q := q) (isComment_reverse hbefore)
    simp only [Stack.plain] at h1 h2
    simp [Stack.plain, h1, h2, isComment_leaf b.closes rfl, hclauses]
  obtain ⟨next, leads, rfl⟩ := @Reduces.eq_of_taken _ _ _ _ rest _ _ hc hmid
    (isComment_leaf b.opens rfl) hcount (by simpa using h)
  refine ⟨next, leads, ?_⟩
  simp [Braces.allotment, tree_strew]

/-- Twins with the closing brace on top that close the conflict. -/
theorem Twin.at_closing {s t : Stack} {x : Crossing} (h : Twin s t) (mem : x ∈ crossings)
    (hs : s.state = x.closing) (ht : t.state = x.closing') :
    ∃ (comments between behind : List Tree) (w brace : Token) (target target' : Tree)
      (a b : Stack), (∀ c ∈ comments, c.isComment = true) ∧
      s = strew x.closing comments ++ ⟨x.closing, .leaf brace⟩ :: (strew x.target behind ++
        ⟨x.target, target⟩ :: (strew x.word between ++ ⟨x.word, .leaf w⟩ :: a)) ∧
      t = strew x.closing' comments ++ ⟨x.closing', .leaf brace⟩ :: (strew x.clauses behind ++
        ⟨x.clauses, Braces.clauses w between.reverse target'⟩ :: b) ∧
      Twin a b ∧ a.state = x.opening ∧ b.state = x.opening ∧ w.kind = .kwRemaining ∧
      brace.kind = .rbrace ∧ (∀ c ∈ between ++ behind, c.isComment = true) ∧
      target.isComment = false ∧ Kin target target' := by
  obtain ⟨comments, b, c, hcomments, hsb, htc, hb, hc, htwin, hplain, _⟩ := h.peel
  rw [hs] at hsb hb
  rw [ht] at htc hc
  obtain ⟨_, hshut, _, _, honly, _, _, _, hstart⟩ := crossings_seams x mem
  have hpair : (b.state, c.state) ∈ shutPairs := by
    rw [hb, hc]
    exact hshut
  have hsides : ∀ p ∈ seams, b.state ≠ p.2 := fun p hp =>
    Automaton.twinPairs_sides _ (seams_apart.2.2 _ (List.mem_append_left _
      (List.mem_append_right _ hpair))) p (seams_apart.2.2 _ hp)
  cases htwin with
  | empty => exact absurd hb.symm hstart
  | comment _ hcomment => simp [hcomment] at hplain
  | read below _ _ _ _ leads leads' =>
    have htarget := ((enters mem leads).2.2.2.1 hb).1
    have hclauses := ((enters mem leads').2.2.2.2.1 hc).1
    have happart : ∀ x ∈ crossings, x.target ≠ x.clauses ∧ (x.target, x.clauses) ∉ twinPairs ∧
        (x.clauses, x.target) ∉ twinPairs := by decide
    obtain ⟨hne, hfirst, hsecond⟩ := happart x mem
    have htops := below.tops
    rw [htarget, hclauses] at htops
    rcases htops with htops | htops | htops
    · exact absurd htops hne
    · exact absurd htops hfirst
    · exact absurd htops hsecond
  | opened _ mem' => exact absurd (crossings_seams _ mem').1 (seams_apart.2.1 _ hpair).1
  | opened' _ mem' =>
    exact absurd rfl (hsides _ (List.mem_append_left _ (List.mem_append_left _
      (crossings_seams _ mem').1)))
  | shut below mem' at_ at' kind closes hall plain kin =>
    obtain rfl := (honly _ mem').2 hb
    exact ⟨comments, _, _, _, _, _, _, _, _, hcomments, hsb, htc, below, at_, at', kind, closes,
      hall, plain, kin⟩
  | shut' _ mem' =>
    exact absurd rfl (hsides _ (List.mem_append_left _ (List.mem_append_right _
      (crossings_seams _ mem').2.1)))
  | turned _ _ _ _ _ pair => exact absurd pair (seams_apart.2.1 _ hpair).2
  | turned' _ _ _ _ _ pair => exact absurd rfl (hsides _ (List.mem_append_right _ pair))

theorem lt_stateCount_of_leads {q n : Nat} {x : Symbol} (h : leads? q x = some n) :
    q < Automaton.stateCount := by
  obtain ⟨s, hs, _⟩ := Option.bind_eq_some_iff.1 h
  exact Automaton.lt_stateCount_of_state? hs

/-- Twins behind the closing brace complete a destination, the one in order and the other by shares. -/
theorem Twin.turns {s t s' t' : Stack} {x : Crossing} (h : Twin s t) (mem : x ∈ crossings)
    (hs : s.state = x.closing) (ht : t.state = x.closing')
    (reduces : Reduces ⟨.destInorder, 4, .plain⟩ s s')
    (reduces' : Reduces ⟨.destAllotment, 3, .plain⟩ t t') : Twin s' t' := by
  obtain ⟨comments, between, behind, w, brace, target, target', a, b, hcomments, rfl, rfl, hbelow,
    ha, hb, hw, hbrace, hall, hplain, hkin⟩ := h.at_closing mem hs ht
  obtain ⟨_, _, _, _, _, hopening, _⟩ := crossings_seams x mem
  obtain ⟨before, lb, u, v, hbefore, rfl, rfl, hlb, hunder, leads, leads'⟩ :=
    hbelow.behind ha hb hopening fun hy => (enters mem hy).1 rfl
  have hbraces : ∀ t ∈ before.reverse ++ between.reverse ++ behind.reverse,
      t.isComment = true := by
    intro t ht
    rcases List.mem_append.1 ht with ht | ht
    · rcases List.mem_append.1 ht with ht | ht
      · exact hbefore t (List.mem_reverse.1 ht)
      · exact hall t (List.mem_append_left _ (List.mem_reverse.1 ht))
    · exact hall t (List.mem_append_right _ (List.mem_reverse.1 ht))
  let braces : Braces :=
    ⟨lb, before.reverse, w, between.reverse, behind.reverse, brace, hlb, hw, hbrace, hbraces⟩
  obtain ⟨n, hn, rfl⟩ := @Reduces.inOrder x.opening x.target x.word x.closing x.opening braces
    comments target u s' hcomments hplain (by simpa [braces] using reduces)
  obtain ⟨m, hm, rfl⟩ := @Reduces.allotment x.opening x.clauses x.closing' x.opening braces
    comments target' v t' hcomments (by simpa [braces] using reduces')
  have hopens := Automaton.turned_of_opening _ (lt_stateCount_of_leads leads) x mem leads
  have hopens' := Automaton.turned_of_opening _ (lt_stateCount_of_leads leads') x mem leads'
  have hpair : ∀ x ∈ crossings, (x.inOrder, x.allotment) ∈ turnedPairs := by decide
  rw [hopens.1] at hn
  rw [hopens'.2] at hm
  obtain rfl := Option.some.inj hn
  obtain rfl := Option.some.inj hm
  exact (Twin.turned hunder braces hkin hopens.1 hopens'.2 (hpair x mem)).strewn hcomments

end Numscript.Parser
