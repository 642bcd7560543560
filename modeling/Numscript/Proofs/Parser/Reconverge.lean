import Numscript.Proofs.Parser.Crossing

/-!
# Twins reconverge

Twins that read the same token are twins again, whichever ways they take out of a conflict that they meet
on it, and twins that accept have kin trees.
-/
namespace Numscript.Parser

open Automaton (Reduction Crossing crossings conflicts twinPairs shutPairs turnedPairs leads? goto?
  reduction?)

/-- Endings of twins that are twins again, or kin programs. -/
inductive Ending.Twin : Ending → Ending → Prop where
  | pushed {s t : Stack} (h : Parser.Twin s t) : Ending.Twin (.pushed s) (.pushed t)
  | accepted {a b : Tree} (h : Kin a b) : Ending.Twin (.accepted a) (.accepted b)

theorem Twin.at_start {s t : Stack} (h : Twin s t) (hs : ∀ f ∈ s, f.tree.isComment = true) :
    s.map (·.tree) = t.map (·.tree) := by
  induction h with
  | empty => rfl
  | comment _ _ ih =>
    have hbelow := ih fun f hf => hs f (List.mem_cons_of_mem _ hf)
    rw [List.map_cons, List.map_cons, hbelow]
  | read _ plain => simp [plain] at hs
  | opened _ _ _ _ kind => simpa [Tree.isComment, kind, Terminal.isComment] using hs _ List.mem_cons_self
  | opened' => cases hs _ List.mem_cons_self
  | shut _ _ _ _ _ closes => simpa [Tree.isComment, closes, Terminal.isComment] using hs _ List.mem_cons_self
  | shut' _ _ _ _ _ closes => simpa [Tree.isComment, closes, Terminal.isComment] using hs _ List.mem_cons_self
  | turned => cases hs _ List.mem_cons_self
  | turned' => cases hs _ List.mem_cons_self

theorem Kin.of_program {layout : Layout} {children : List Tree} {d : Tree}
    (h : Kin (.node .program layout children) d) :
    ∃ children', d = .node .program layout children' ∧ KinAll children children' := by
  generalize hc : Tree.node .program layout children = c at h
  cases h with
  | leaf => cases hc
  | node below =>
    cases hc
    exact ⟨_, rfl, below⟩
  | turned => cases hc
  | returned => cases hc

/-- Twins that both accept have kin programs. -/
theorem Twin.accepts {s t upper lower upper' lower' : Stack} {layout layout' : Layout}
    {children children' : List Tree} (h : Twin s t)
    (alone : s = upper ++ ⟨Automaton.final, .node .program layout children⟩ :: lower)
    (above : ∀ f ∈ upper, f.tree.isComment = true) (under : ∀ f ∈ lower, f.tree.isComment = true)
    (alone' : t = upper' ++ ⟨Automaton.final, .node .program layout' children'⟩ :: lower')
    (above' : ∀ f ∈ upper', f.tree.isComment = true) :
    Kin (.node .program layout ((lower.map (·.tree)).reverse ++ children ++
        (upper.map (·.tree)).reverse))
      (.node .program layout' ((lower'.map (·.tree)).reverse ++ children' ++
        (upper'.map (·.tree)).reverse)) := by
  obtain ⟨comments, b, c, hcomments, hs, ht, hb, hc, htwin, hplain, hplain'⟩ := h.peel
  have hfront : ∀ {u l : Stack} {o : Layout} {cs : List Tree} {q : Nat} {d : Stack},
      (∀ f ∈ u, f.tree.isComment = true) → (∀ f ∈ d.head?, f.tree.isComment = false) →
      u ++ ⟨Automaton.final, .node .program o cs⟩ :: l = strew q comments ++ d →
      u.map (·.tree) = comments ∧ d = ⟨Automaton.final, .node .program o cs⟩ :: l := by
    intro u l o cs q d hu hd heq
    have hbare := congrArg Stack.bare heq
    have hcomm := congrArg Stack.comments heq
    rw [bare_strew hcomments hd, Stack.bare, List.dropWhile_append_of_pos hu] at hbare
    rw [comments_strew hcomments hd, Stack.comments, List.takeWhile_append_of_pos hu] at hcomm
    refine ⟨?_, hbare.symm⟩
    have htrees := congrArg (List.map (·.tree)) hcomm
    rw [tree_strew] at htrees
    simpa [Tree.isComment] using htrees
  obtain ⟨hupper, rfl⟩ := hfront above hplain (alone.symm.trans hs)
  obtain ⟨hupper', rfl⟩ := hfront above' hplain' (alone'.symm.trans ht)
  have hseam := not_mem_seams Automaton.final
  rcases htwin.read_of hseam hseam hplain with ⟨hnil, _⟩ | ⟨n, m, x, y, a, a', hs', ht', hbelow, _,
    hkin, _, _⟩
  · cases hnil
  · obtain ⟨hframe, rfl⟩ := List.cons.inj hs'
    obtain ⟨hframe', rfl⟩ := List.cons.inj ht'
    cases hframe
    cases hframe'
    obtain ⟨children'', hnode, hall⟩ := Kin.of_program hkin
    cases hnode
    rw [hupper, hupper', hbelow.at_start under]
    exact .node (((KinAll.refl _).append hall).append (KinAll.refl _))

/-- Where the first of two twins pushes a token, and the second one completes a phrase before it. -/
theorem Twin.shift_reduce {token : Token} {s t kept : Stack} {e : Ending} {n : Nat} {r : Reduction}
    (h : Twin s t) (plain : token.kind.isComment = false)
    (leads : leads? s.state (.terminal token.kind) = some n)
    (asks : reduction? t.state token.kind = some r) (reduces : Reduces r t kept)
    (rest : Settles token kept e) : ∃ t', e = .pushed t' ∧ Twin (⟨n, .leaf token⟩ :: s) t' := by
  have hkind := Terminal.mem_all token.kind
  rcases h.tops with heq | hpair | hpair
  · rw [← heq] at asks
    obtain ⟨x, mem, hx⟩ := Automaton.conflict_of_both leads asks
    rw [hx] at leads asks
    exact h.forks mem hx (heq.symm.trans hx) plain leads asks reduces rest
  · obtain ⟨htops, hrbrace⟩ := Automaton.shift_beside_reduction _ hpair _ hkind
      (by simp [leads, asks])
    have htargets : ∀ p ∈ [(677, 398), (678, 398)], ∃ x ∈ crossings, p = (x.target, 398) := by
      decide
    obtain ⟨x, mem, hx⟩ := htargets _ htops
    obtain ⟨hs, ht⟩ := Prod.mk.inj hx
    rw [hs, hrbrace, (Automaton.crossings_do x mem).2.2.2.2.2.2.1] at leads
    obtain rfl := Option.some.inj leads
    exact h.shuts mem hs ht hrbrace (.reduce plain asks reduces rest)
  · have hconflict := Automaton.reduction_beside_shift _ hpair _ hkind (by simp [leads, asks])
    have hwords : ∀ p ∈ conflicts, ∃ x ∈ crossings, p = (x.word, 518) := by decide
    obtain ⟨x, mem, hx⟩ := hwords _ hconflict
    obtain ⟨ht, hs⟩ := Prod.mk.inj hx
    rw [ht] at asks
    obtain ⟨t', s', rfl, hs', htwin⟩ :=
      h.symm.merges mem ht hs plain asks reduces rest (.shift plain leads)
    cases hs'
    exact ⟨t', rfl, htwin.symm⟩

/-- Where both of two twins complete a phrase before a token. -/
theorem Twin.reduce_reduce {k : Terminal} {s t s' t' : Stack} {r r' : Reduction} (h : Twin s t)
    (asks : reduction? s.state k = some r) (asks' : reduction? t.state k = some r')
    (reduces : Reduces r s s') (reduces' : Reduces r' t t') : Twin s' t' := by
  have hshut : ∀ {s t s' t' : Stack} {r r' : Reduction}, Twin s t →
      (s.state, t.state) ∈ twinPairs → reduction? s.state k = some r →
      reduction? t.state k = some r' → Reduces r s s' → Reduces r' t t' → Twin s' t' := by
    intro s t s' t' r r' h hpair asks asks' reduces reduces'
    rcases Automaton.reduction_beside_reduction _ hpair k (Terminal.mem_all k)
      (by simp [asks, asks']) with heq | hshut
    · rw [asks, asks'] at heq
      obtain rfl := Option.some.inj heq
      exact h.reduces asks asks' reduces reduces'
    · have hclosings : ∀ p ∈ shutPairs, ∃ x ∈ crossings, p = (x.closing, x.closing') := by decide
      obtain ⟨x, mem, hx⟩ := hclosings _ hshut
      obtain ⟨hs, ht⟩ := Prod.mk.inj hx
      obtain ⟨honly, honly', _⟩ := Automaton.crossings_do x mem
      rw [hs] at asks
      rw [ht] at asks'
      obtain rfl := ((Automaton.onlyReduces_spec honly).2 k).2 _ asks
      obtain rfl := ((Automaton.onlyReduces_spec honly').2 k).2 _ asks'
      exact h.turns mem hs ht reduces reduces'
  rcases h.tops with heq | hpair | hpair
  · have hasks := asks
    rw [heq, asks'] at hasks
    obtain rfl := Option.some.inj hasks
    exact h.reduces asks asks' reduces reduces'
  · exact hshut h hpair asks asks' reduces reduces'
  · exact (hshut h.symm hpair asks' asks reduces' reduces).symm

theorem Twin.final {s t : Stack} (h : Twin s t) (hs : s.state = Automaton.final) :
    t.state = Automaton.final := by
  rcases h.tops with heq | hpair | hpair
  · exact heq.symm.trans hs
  · exact absurd hs (Automaton.final_not_mem_twinPairs _ hpair).1
  · exact absurd hs (Automaton.final_not_mem_twinPairs _ hpair).2

/-- A branch from the end of the program accepts it. -/
theorem Settles.accepts {token : Token} {t : Stack} {e : Ending} (h : Settles token t e)
    (final : t.state = Automaton.final) (kind : token.kind = .endOfText) :
    ∃ upper lower layout children, e = .accepted (.node .program layout
        ((lower.map (·.tree)).reverse ++ children ++ (upper.map (·.tree)).reverse)) ∧
      t = upper ++ ⟨Automaton.final, .node .program layout children⟩ :: lower ∧
      ∀ f ∈ upper, f.tree.isComment = true := by
  cases h with
  | pass comment => simp [kind, Terminal.isComment] at comment
  | shift _ leads =>
    rw [kind, Automaton.leads?_endOfText] at leads
    cases leads
  | reduce _ asks =>
    rw [final, Automaton.reduction?_final _ (Terminal.mem_all _)] at asks
    cases asks
  | accept _ _ alone above _ => exact ⟨_, _, _, _, rfl, alone, above⟩

theorem Twin.settles {token : Token} {s t : Stack} {e e' : Ending} (h : Twin s t)
    (hs : Settles token s e) (ht : Settles token t e') : e.Twin e' := by
  induction hs generalizing t e' with
  | @pass s comment =>
    cases ht with
    | pass => exact .pushed (.comment h comment)
    | shift plain => simp [comment] at plain
    | reduce plain => simp [comment] at plain
    | accept _ kind => simp [kind, Terminal.isComment] at comment
  | @shift s n plain leads =>
    cases ht with
    | pass comment => simp [comment] at plain
    | shift _ leads' => exact .pushed (.read h plain plain rfl (.leaf token) leads leads')
    | reduce _ asks reduces rest =>
      obtain ⟨t', rfl, htwin⟩ := h.shift_reduce plain leads asks reduces rest
      exact .pushed htwin
    | accept _ kind =>
      rw [kind, Automaton.leads?_endOfText] at leads
      cases leads
  | @reduce s kept r e plain asks reduces rest ih =>
    cases ht with
    | pass comment => simp [comment] at plain
    | shift _ leads =>
      obtain ⟨s', rfl, htwin⟩ := h.symm.shift_reduce plain leads asks reduces rest
      exact .pushed htwin.symm
    | reduce _ asks' reduces' rest' => exact ih (h.reduce_reduce asks asks' reduces reduces') rest'
    | accept final =>
      rw [h.symm.final final, Automaton.reduction?_final _ (Terminal.mem_all _)] at asks
      cases asks
  | @accept s upper lower layout children final kind alone above under =>
    obtain ⟨upper', lower', layout', children', rfl, alone', above'⟩ :=
      ht.accepts (h.final final) kind
    exact .accepted (h.accepts alone above under alone' above')

end Numscript.Parser
