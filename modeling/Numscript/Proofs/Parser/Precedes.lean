import Numscript.Proofs.Automaton.Preference
import Numscript.Proofs.Parser.Astray

/-!
# The spine that fills in order

A spine that holds the word of a single clause precedes the one that holds its share in the same place, and
is led on by the same symbols. On the tokens up to the closing brace it does what the latter does. Behind
the brace both come to the same spine.
-/
namespace Numscript.Parser

open Automaton (Reduction Crossing crossings conflicts conflictPairs starters sharing sharingEnds
  findsToo goals leads? goto? reduction?)

/-- The two ways out of the conflict, over the same spine. -/
def Forks (lower s t : List Nat) : Prop :=
  ∃ x ∈ crossings, top lower = x.opening ∧ s = x.word :: lower ∧ t = 518 :: lower

/-- The first spine holds the word where the second one holds its share. -/
abbrev Precedes (lower : List Nat) : List Nat → List Nat → Prop :=
  Lockstep (Forks lower) fun _ _ => True

/-- Behind the closing brace. -/
def PrecedesShut (lower s t : List Nat) : Prop := ∃ x ∈ crossings, top lower = x.opening ∧
  s = x.closing :: x.target :: x.word :: lower ∧ t = x.closing' :: x.clauses :: lower

variable {lower s t : List Nat}

theorem Precedes.tops (h : Precedes lower s t) :
    (top s, top t) ∈ conflictPairs ∨ top s = top t := by
  induction h with
  | base h =>
    obtain ⟨x, mem, _, rfl, rfl⟩ := h
    have hwords : ∀ x ∈ crossings, (x.word, 518) ∈ conflictPairs := by decide
    exact .inl (hwords x mem)
  | read _ leads leads' _ ih =>
    rcases ih with hpair | heq
    · have hclosed := Automaton.twinPairs_closed _ (mem_twinPairs_of_conflict hpair)
      exact (Automaton.mem_of_closed hclosed leads leads').symm
    · rw [heq, leads'] at leads
      exact .inr (Option.some.inj leads).symm

theorem Precedes.at_share (h : Precedes lower s t) (share : top t = 518) (apart : top s ≠ 518) :
    Forks lower s t := by
  have htops := Precedes.tops h
  cases h with
  | base h => exact h
  | @read s t y n m below leads leads' _ =>
    obtain rfl : m = 518 := share
    have hwords : ∀ p ∈ conflictPairs, p.2 = 518 → ∃ x ∈ crossings, p.1 = x.word := by decide
    obtain ⟨x, mem, hword⟩ := hwords _ (htops.resolve_right apart) rfl
    have hfirst := ((enters mem leads).2.1 hword).2
    have hsecond := (enters mem leads').2.2.2.2.2.1 rfl
    rw [hfirst] at hsecond
    cases hsecond

/-- The spine of the reading by shares inside the target of a single clause. -/
abbrev Sharing (lower : List Nat) : List Nat → List Nat → Prop :=
  Lockstep (fun s t => s = t ∧ s = 23 :: 518 :: lower) fun n m => n = m ∧ n ∈ sharing

theorem Sharing.top_mem (h : Sharing lower s t) : top s ∈ 23 :: sharing := by
  cases h with
  | base h =>
    obtain ⟨_, rfl⟩ := h
    exact List.mem_cons_self
  | read _ _ _ fit => exact List.mem_cons_of_mem _ fit.2

theorem Precedes.sharing (h : Precedes lower s t) (mem : top t ∈ sharing) (apart : top s ≠ top t) :
    Sharing lower t t := by
  induction h with
  | base h =>
    obtain ⟨x, _, _, rfl, rfl⟩ := h
    have hshare : 518 ∉ Automaton.sharing := by decide
    exact absurd mem hshare
  | @read s t x n m below leads leads' _ ih =>
    obtain ⟨hshare, hclause⟩ := (Automaton.enters_sharing leads').1 mem
    have hbelow : top s ≠ top t := by
      intro heq
      rw [heq, leads'] at leads
      exact apart (Option.some.inj leads).symm
    have hpair := (Precedes.tops below).resolve_right hbelow
    rcases Automaton.sharing_of_conflict _ hpair with hin | htarget | hconflict | hclosing
    · exact .read (ih hin hbelow) leads' leads' ⟨rfl, mem⟩
    · obtain ⟨hs, ht⟩ := Prod.mk.inj htarget
      refine .read (.base ⟨rfl, ?_⟩) leads' leads' ⟨rfl, mem⟩
      cases below with
      | base h =>
        obtain ⟨_, _, _, rfl, rfl⟩ := h
        cases ht
      | @read s t y a b below hleads hleads' _ =>
        obtain rfl : a = 22 := hs
        obtain rfl : b = 23 := ht
        have h518 := (Automaton.enters_sharing hleads').2 rfl
        have hapart : top s ≠ 518 := by
          intro heq
          rw [heq, ← h518, hleads'] at hleads
          cases hleads
        obtain ⟨_, _, _, _, rfl⟩ := Precedes.at_share below h518 hapart
        rfl
    · have hall : ∀ p ∈ conflicts, p.2 = 518 := by decide
      exact absurd (hall _ hconflict) hshare
    · have hall : ∀ p ∈ [(677, 398), (678, 398)], p.2 = 398 := by decide
      exact absurd (hall _ hclosing) hclause

theorem exists_opening {x : Crossing} (mem : x ∈ crossings) (opens : top lower = x.opening) :
    ∃ l, lower = x.opening :: l := by
  cases lower with
  | nil => exact absurd opens.symm (crossings_seams x mem).2.2.2.2.2.1
  | cons q l => exact ⟨l, by rw [show q = x.opening from opens]⟩

/-- Behind a whole phrase of the target, a token that starts another clause completes this one. -/
theorem Sharing.leaves {x : Crossing} {k : Terminal} {t' : List Nat} (mem : x ∈ crossings)
    (opens : top lower = x.opening) (h : Sharing lower t t) (ends : top t ∈ sharingEnds)
    (starts : k ∈ starters) (ht : Takes k t t') :
    ∃ n, leads? x.clauses (.terminal k) = some n ∧ t' = n :: x.clauses :: lower := by
  obtain ⟨l, rfl⟩ := exists_opening mem opens
  induction ht with
  | shift leads =>
    rw [(Automaton.sharingEnds_reduce _ ends k starts).1] at leads
    cases leads
  | @reduce s t' r n asks leads rest ih =>
    obtain ⟨_, hphrase⟩ := Automaton.sharingEnds_reduce _ ends k starts
    obtain ⟨hto, haccount⟩ := hphrase r asks
    by_cases hr : r.phrase = .destAccount
    · obtain ⟨h319, rfl⟩ := haccount hr
      cases h with
      | base h =>
        obtain ⟨_, rfl⟩ := h
        cases h319
      | @read _ s _ m _ below hleads _ _ =>
        obtain rfl : m = 319 := h319
        have h23 := Automaton.enters_target hleads
        cases below with
        | base h =>
          obtain ⟨_, rfl⟩ := h
          exact takes_starter mem starts (.reduce asks leads rest)
        | read _ _ _ fit =>
          have hnot : 23 ∉ Automaton.sharing := by decide
          exact absurd (h23 ▸ fit.2) hnot
    · have hstart : ∀ q ∈ sharingEnds, q ≠ Automaton.start := by decide
      have hclosed : ∀ s t, s = t ∧ s = 23 :: 518 :: x.opening :: l → ∀ g ∈ goals (top s),
          g ∈ goals (top t) → g.reduction ≠ r := by
        rintro s t ⟨_, rfl⟩ g hg _ rfl
        have hgoals : ∀ g ∈ goals 23, g.reduction.phrase = .destinationTo := by decide +kernel
        exact hto (hgoals g hg)
      obtain ⟨hrest, hspan⟩ :=
        Lockstep.reduces h hclosed (arity_ne_zero asks (hstart _ ends)) asks asks
      obtain ⟨y, a, b, ha, _, ⟨rfl, hchild⟩, hfirst, _, hmore⟩ := hspan.first_child
      have hends : n ∈ sharingEnds := by
        rcases Automaton.sharesBehind_spec (Sharing.top_mem hrest) ha hchild hfirst hr leads with
          hends | ⟨htwo, hnone⟩
        · exact hends
        · rcases hmore with ⟨hone, _⟩ | ⟨z, c, d, hc, _, ⟨rfl, hin⟩, hsecond, _⟩
          · exact absurd hone htwo
          · exact absurd hsecond (hnone z c hc hin)
      rw [← leads?_nonterminal] at leads
      exact ih hends (.read hrest leads leads ⟨rfl, List.mem_append_left _ hends⟩)

/-- Where both spines complete the same phrase, the first one can go on behind it as well. -/
theorem Precedes.reduces {k : Terminal} {r : Reduction} {m : Nat} (h : Precedes lower s t)
    (arity : r.arity ≠ 0) (asks : reduction? (top s) k = some r) (asks' : reduction? (top t) k = some r)
    (leads' : goto? (top (t.drop r.arity)) r.phrase = some m) :
    ∃ n, goto? (top (s.drop r.arity)) r.phrase = some n ∧
      Precedes lower (n :: s.drop r.arity) (m :: t.drop r.arity) := by
  have hclosed : ∀ s t, Forks lower s t → ∀ g ∈ goals (top s), g ∈ goals (top t) →
      g.reduction ≠ r := by
    rintro s t ⟨x, mem, _, rfl, rfl⟩ g hg hg' _
    have hgoals : ∀ x ∈ crossings, ∀ g ∈ goals x.word, g ∉ goals 518 := by decide +kernel
    exact hgoals x mem g hg hg'
  obtain ⟨hrest, hspan⟩ := Lockstep.reduces h hclosed arity asks asks'
  obtain ⟨y, a, b, ha, _, _, hfirst, _, _⟩ := hspan.first_child
  obtain ⟨place, hplace, _, hgoto, _⟩ := Automaton.goal_before ha hfirst
  obtain rfl : 0 = place := Nat.succ.inj hplace
  obtain ⟨n, hn⟩ := hgoto rfl
  have hn' : leads? (top (s.drop r.arity)) (.nonterminal r.phrase) = some n := by
    rw [leads?_nonterminal]
    exact hn
  rw [← leads?_nonterminal] at leads'
  exact ⟨n, hn, .read hrest hn' leads' trivial⟩

theorem keepsUp_spec {p : Nat × Nat} {k : Terminal} (plain : k.isComment = false)
    (h : Automaton.keepsUp p k = true) :
    ((∃ n, leads? p.1 (.terminal k) = some n) ∧ reduction? p.2 k = none) ∨
      leads? p.2 (.terminal k) = none ∧ ∃ r, reduction? p.1 k = some r ∧ reduction? p.2 k = some r := by
  simp only [Automaton.keepsUp, plain, Bool.false_or, Bool.or_eq_true, Bool.and_eq_true,
    Option.isNone_iff_eq_none, decide_eq_true_eq, Option.isSome_iff_exists] at h
  rcases h with ⟨⟨hfirst, _⟩, hnone⟩ | ⟨⟨hnone, r, hr⟩, heq⟩
  · exact .inl ⟨hfirst, hnone⟩
  · exact .inr ⟨hnone, r, heq.trans hr, hr⟩

theorem Precedes.opens (h : Precedes lower s t) : ∃ x ∈ crossings, top lower = x.opening := by
  induction h with
  | base h =>
    obtain ⟨x, mem, opens, _⟩ := h
    exact ⟨x, mem, opens⟩
  | read _ _ _ _ ih => exact ih

/-- Behind the target of the clause. -/
theorem Precedes.at_target (h : Precedes lower s t) (pair : (top s, top t) ∈ conflictPairs)
    (clause : top t = 398) : ∃ x ∈ crossings, top lower = x.opening ∧
      s = x.target :: x.word :: lower ∧ t = 398 :: 518 :: lower := by
  have htargets : ∀ p ∈ conflictPairs, p.2 = 398 → ∃ x ∈ crossings, p.1 = x.target := by decide
  obtain ⟨x, mem, htarget⟩ := htargets _ pair clause
  cases h with
  | base h =>
    obtain ⟨_, _, _, _, rfl⟩ := h
    cases clause
  | @read s t y n m below leads leads' _ =>
    obtain rfl : n = x.target := htarget
    obtain rfl : m = 398 := clause
    obtain ⟨hword, _⟩ := (enters mem leads).2.2.1 rfl
    obtain ⟨hshare, _⟩ := (enters mem leads').2.2.2.2.2.2 rfl
    have hwords : ∀ x ∈ crossings, x.word ≠ 518 ∧ ∀ x' ∈ crossings, x'.word = x.word → x' = x := by
      decide
    obtain ⟨hne, hsame⟩ := hwords x mem
    obtain ⟨x', mem', opens, rfl, rfl⟩ := Precedes.at_share below hshare (hword ▸ hne)
    obtain rfl := hsame x' mem' hword
    exact ⟨x', mem', opens, rfl, rfl⟩

/-- The second spine has completed the clause and begun another one. -/
def Left (lower : List Nat) (k : Terminal) (t : List Nat) : Prop :=
  k ∈ starters ∧ ∃ x ∈ crossings, ∃ n, leads? x.clauses (.terminal k) = some n ∧
    t = n :: x.clauses :: lower

theorem targets_clause : ∀ p ∈ [(677, 398), (678, 398)], p.2 = 398 := by decide

/-- Before a token that starts another clause, the second spine completes its clause. -/
theorem Precedes.leaves {k : Terminal} {t' : List Nat} (h : Precedes lower s t)
    (pair : (top s, top t) ∈ conflictPairs) (ends : top t ∈ sharingEnds ∨ top t = 398)
    (starts : k ∈ starters) (ht : Takes k t t') : Left lower k t' := by
  refine ⟨starts, ?_⟩
  rcases ends with hends | hclause
  · obtain ⟨x, mem, opens⟩ := Precedes.opens h
    have hmem : top t ∈ Automaton.sharing := List.mem_append_left _ hends
    have hshares := h.sharing hmem (Automaton.twinPairs_sides _ (mem_twinPairs_of_conflict pair) _
      (mem_twinPairs_of_conflict pair))
    exact ⟨x, mem, hshares.leaves mem opens hends starts ht⟩
  · obtain ⟨x, mem, opens, _, rfl⟩ := h.at_target pair hclause
    obtain ⟨l, rfl⟩ := exists_opening mem opens
    exact ⟨x, mem, takes_clause mem ht⟩

/-- Before the closing brace, the second spine completes its clause, and both push the brace. -/
theorem Precedes.shuts {t' : List Nat} (h : Precedes lower s t)
    (pair : (top s, top t) ∈ conflictPairs) (clause : top t = 398) (ht : Takes .rbrace t t') :
    ∃ s', Takes .rbrace s s' ∧ PrecedesShut lower s' t' := by
  obtain ⟨x, mem, opens, rfl, rfl⟩ := h.at_target pair clause
  obtain ⟨l, rfl⟩ := exists_opening mem opens
  obtain ⟨n, hn, rfl⟩ := takes_clause mem ht
  obtain ⟨_, _, _, _, _, _, hclosing, hclosing', _⟩ := Automaton.crossings_do x mem
  obtain rfl := Option.some.inj (hn.symm.trans hclosing')
  exact ⟨_, .shift hclosing, x, mem, opens, rfl, rfl⟩

theorem Precedes.top_ne_start (h : Precedes lower s t) : top t ≠ Automaton.start := by
  cases h with
  | base h =>
    obtain ⟨_, _, _, _, rfl⟩ := h
    have hshare : 518 ≠ Automaton.start := by decide
    exact hshare
  | read _ _ leads' => exact Automaton.leads?_ne_start leads'

/-- What is done by the second spine, the first one does as well, and finds the same token, until the second
one leaves its clause for another one. -/
theorem Precedes.takes {k : Terminal} {t' : List Nat} (h : Precedes lower s t)
    (plain : k.isComment = false) (ht : Takes k t t') :
    (top s = top t ∨ findsToo (top s, top t) k = true) ∧ (∃ s', Takes k s s' ∧
      (Precedes lower s' t' ∨ PrecedesShut lower s' t')) ∨ Left lower k t' := by
  induction ht generalizing s with
  | @shift t m leads =>
    have hshift : ∀ n, leads? (top s) (.terminal k) = some n → ∃ s', Takes k s s' ∧
        (Precedes lower s' (m :: t) ∨ PrecedesShut lower s' (m :: t)) := fun n hn =>
      ⟨n :: s, .shift hn, .inl (.read h hn leads trivial)⟩
    rcases Precedes.tops h with hpair | heq
    · rcases (Automaton.keepsUp_conflictPairs _ hpair k
        (mem_actions (acts_of_isSome (.inl (by simp [leads]))))).2 with
        ⟨hfinds, hkeeps | ⟨hspecial, rfl⟩⟩ | ⟨starts, hends⟩
      · rcases keepsUp_spec plain hkeeps with ⟨⟨n, hn⟩, _⟩ | ⟨hnone, _⟩
        · exact .inl ⟨.inr hfinds, hshift n hn⟩
        · rw [leads] at hnone
          cases hnone
      · obtain ⟨s', hs', hshut⟩ := h.shuts hpair (targets_clause _ hspecial) (.shift leads)
        exact .inl ⟨.inr hfinds, s', hs', .inr hshut⟩
      · exact .inr (h.leaves hpair hends starts (.shift leads))
    · exact .inl ⟨.inl heq, hshift m (heq ▸ leads)⟩
  | @reduce t t' r m asks leads rest ih =>
    have hreduce : reduction? (top s) k = some r → (top s = top t ∨ findsToo (top s, top t) k = true) →
        (top s = top t ∨ findsToo (top s, top t) k = true) ∧ (∃ s', Takes k s s' ∧
          (Precedes lower s' t' ∨ PrecedesShut lower s' t')) ∨ Left lower k t' := by
      intro asks' hfinds
      obtain ⟨n, hn, hprecedes⟩ :=
        h.reduces (arity_ne_zero asks h.top_ne_start) asks' asks leads
      exact (ih hprecedes).imp_left fun ⟨_, s', hs', hrest⟩ =>
        ⟨hfinds, s', .reduce asks' hn hs', hrest⟩
    rcases Precedes.tops h with hpair | heq
    · rcases (Automaton.keepsUp_conflictPairs _ hpair k
        (mem_actions (acts_of_isSome (.inr (by simp [asks]))))).2 with
        ⟨hfinds, hkeeps | ⟨hspecial, rfl⟩⟩ | ⟨starts, hends⟩
      · rcases keepsUp_spec plain hkeeps with ⟨_, hnone⟩ | ⟨_, r', hr', hr⟩
        · rw [asks] at hnone
          cases hnone
        · obtain rfl := Option.some.inj (asks.symm.trans hr)
          exact hreduce hr' (.inr hfinds)
      · obtain ⟨s', hs', hshut⟩ :=
          h.shuts hpair (targets_clause _ hspecial) (.reduce asks leads rest)
        exact .inl ⟨.inr hfinds, s', hs', .inr hshut⟩
      · exact .inr (h.leaves hpair hends starts (.reduce asks leads rest))
    · exact hreduce (heq ▸ asks) (.inl heq)

theorem Viable.leads_spine {stack : Stack} {upper below : List Nat} {n : Nat} (h : Viable stack)
    (hs : stack.spine = upper ++ n :: below) : ∃ y, leads? (top below) y = some n := by
  induction h generalizing upper with
  | empty =>
    have hnil : upper ++ n :: below = [] := hs.symm
    simp at hnil
  | comment _ hc ih => exact ih (by rwa [Stack.spine_comment hc] at hs)
  | @read stack tree next below' plain leads ih =>
    rw [Stack.spine_cons plain] at hs
    cases upper with
    | nil =>
      obtain ⟨hn, rfl⟩ := List.cons.inj hs
      obtain rfl : next = n := hn
      rw [← below'.top_spine] at leads
      exact ⟨_, leads⟩
    | cons q upper => exact ih (List.cons.inj hs).2

/-- Where a state does nothing but a reduction, a branch begins with it. -/
theorem Takes.only {k : Terminal} {s t : List Nat} {r : Reduction} (h : Takes k s t)
    (only : Automaton.onlyReduces (top s) r = true) : (reduction? (top s) k).isSome = true ∧
      ∃ n, goto? (top (s.drop r.arity)) r.phrase = some n ∧ Takes k (n :: s.drop r.arity) t := by
  obtain ⟨hshifts, hreductions⟩ := (Automaton.onlyReduces_spec only).2 k
  cases h with
  | shift leads =>
    rw [hshifts] at leads
    cases leads
  | reduce asks leads rest =>
    obtain rfl := hreductions _ asks
    exact ⟨by rw [asks]; rfl, _, leads, rest⟩

theorem Takes.before {k : Terminal} {s t : List Nat} {r : Reduction} {n : Nat}
    (asks : (reduction? (top s) k).isSome = true)
    (only : Automaton.onlyReduces (top s) r = true)
    (leads : goto? (top (s.drop r.arity)) r.phrase = some n)
    (h : Takes k (n :: s.drop r.arity) t) : Takes k s t := by
  obtain ⟨r', hr'⟩ := Option.isSome_iff_exists.1 asks
  obtain rfl := ((Automaton.onlyReduces_spec only).2 k).2 r' hr'
  exact .reduce hr' leads h

theorem PrecedesShut.tops (h : PrecedesShut lower s t) : (top s, top t) ∈ Automaton.shutPairs := by
  obtain ⟨x, mem, _, rfl, rfl⟩ := h
  exact (crossings_seams x mem).2.1

theorem PrecedesShut.findsToo {k : Terminal} (h : PrecedesShut lower s t)
    (acts : k ∈ Automaton.actions (top t)) :
    k ≠ .endOfText ∧ findsToo (top s, top t) k = true := by
  obtain ⟨hend, hfinds, _⟩ := Automaton.keepsUp_shutPairs _ h.tops k acts
  exact ⟨hend, hfinds⟩

/-- Behind the closing brace both spines come to the same one. -/
theorem PrecedesShut.takes {k : Terminal} {s' t' : Stack} {u : List Nat}
    (h : PrecedesShut lower s'.spine t'.spine) (hv : Viable t') (ht : Takes k t'.spine u)
    (plain : k.isComment = false) : Takes k s'.spine u := by
  obtain ⟨_, _, hasks⟩ := Automaton.keepsUp_shutPairs _ h.tops k
    (mem_actions (acts_of_isSome ht.acts))
  obtain ⟨x, mem, opens, hs, hspine⟩ := h
  obtain ⟨l, rfl⟩ := exists_opening mem opens
  obtain ⟨y, leads⟩ := @Viable.leads_spine _ [x.closing', x.clauses] _ _ hv hspine
  obtain rfl := (enters mem leads).1 rfl
  obtain ⟨hinorder, hallotment⟩ :=
    Automaton.turned_of_opening _ (lt_stateCount_of_leads leads) x mem leads
  obtain ⟨hclosing, hclosing', _⟩ := Automaton.crossings_do x mem
  obtain ⟨honly, honly', hturned⟩ := Automaton.turned_do x mem
  rw [hspine] at ht
  rw [hs, hspine] at hasks
  rw [hs]
  obtain ⟨_, n, hn, hrest⟩ := ht.only hclosing'
  obtain rfl := Option.some.inj (hn.symm.trans hallotment)
  obtain ⟨hdestination, m, hm, hsame⟩ := hrest.only honly'
  have hcomplete : (reduction? x.inOrder k).isSome = true :=
    hturned k (Terminal.mem_all k) hdestination
  refine .before (hasks.resolve_left (by simp [plain])) hclosing hinorder ?_
  exact .before hcomplete honly hm hsame

end Numscript.Parser
