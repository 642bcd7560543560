import Numscript.Proofs.Automaton.Astray
import Numscript.Proofs.Parser.Crossing
import Numscript.Proofs.Parser.Lockstep

/-!
# Stacks that read different tokens

Twins inside an open conflict may find different tokens. They complete the same phrases before them, and
where both go on the one pushes a hyphen as an operator and the other one a negative number. From then on
they are astray: they do the same on all tokens, and neither closes the braces or goes on to a target.
-/
namespace Numscript.Parser

open Automaton (Reduction Crossing crossings conflicts conflictPairs twinPairs outer discords
  astrayPairs astrayTops valueStates goals leads? goto? reduction? acts)

/-- Both spines stand before the target of the clause in braces, the one behind the word, the other one
behind its share. -/
def FacesTarget (s t : List Nat) : Prop := ∃ x ∈ crossings, ∃ a b,
  s = 22 :: x.word :: x.opening :: a ∧ t = 23 :: 518 :: x.opening :: b

/-- Pairs of states inside the target of the clause. -/
def Parted (n m : Nat) : Prop := n ≠ m ∧ n ≠ 22 ∧ n ∉ outer

/-- Spines within the target of a single clause whose conflict is open. -/
abbrev Facing : List Nat → List Nat → Prop := Lockstep FacesTarget Parted

theorem mem_twinPairs_of_conflict {p : Nat × Nat} (h : p ∈ conflictPairs) : p ∈ twinPairs :=
  List.mem_append_left _ (List.mem_append_left _ h)

theorem Facing.tops {s t : List Nat} (h : Facing s t) :
    (top s, top t) ∈ conflictPairs ∧ top s ∉ outer := by
  induction h with
  | base h =>
    obtain ⟨_, _, _, _, rfl, rfl⟩ := h
    have hbase : (22, 23) ∈ conflictPairs ∧ 22 ∉ outer := by decide
    exact hbase
  | read _ leads leads' fit ih =>
    have hclosed := Automaton.twinPairs_closed _ (mem_twinPairs_of_conflict ih.1)
    rcases Automaton.mem_of_closed hclosed leads leads' with heq | hpair
    · exact absurd heq fit.1
    · exact ⟨hpair, fit.2.2⟩

theorem Viable.exists_spine {s : Stack} {q : Nat} (h : Viable s) (hs : s.state = q)
    (start : q ≠ Automaton.start) : ∃ l, s.spine = q :: l := by
  rw [← h.top_spine] at hs
  cases hl : s.spine with
  | nil =>
    rw [hl] at hs
    exact absurd hs.symm start
  | cons q' l =>
    rw [hl] at hs
    obtain rfl : q' = q := hs
    exact ⟨l, rfl⟩

theorem Twin.faces_target {s t : Stack} (h : Twin s t) (hs : Viable s) (ht : Viable t)
    (pair : (s.state, t.state) ∈ conflicts) : FacesTarget (22 :: s.spine) (23 :: t.spine) := by
  have hwords : ∀ p ∈ conflicts, ∃ x ∈ crossings, p = (x.word, 518) := by decide
  obtain ⟨x, mem, hx⟩ := hwords _ pair
  obtain ⟨hword, hshare⟩ := Prod.mk.inj hx
  obtain ⟨comments, w, a, b, hcomments, rfl, rfl, hw, _, ha, hb⟩ := h.at_word mem hword hshare
  have ha' := hs.of_append.tail
  have hb' := ht.of_append.tail
  have hopening := (crossings_seams x mem).2.2.2.2.2.1
  obtain ⟨l, hl⟩ := ha'.exists_spine ha hopening
  obtain ⟨l', hl'⟩ := hb'.exists_spine hb hopening
  rw [spine_strew hcomments, spine_strew hcomments, Stack.spine_cons (isComment_leaf hw rfl),
    Stack.spine_cons (isComment_share w), hl, hl']
  exact ⟨x, mem, l, l', rfl, rfl⟩

/-- Twins inside a target move in lockstep. -/
theorem Twin.facing {s t : Stack} (h : Twin s t) (hs : Viable s) (ht : Viable t)
    (pair : (s.state, t.state) ∈ conflictPairs) (inner : s.state ∉ outer) :
    Facing s.spine t.spine := by
  have hsides : ∀ p ∈ twinPairs, s.state ≠ p.2 := fun p hp =>
    Automaton.twinPairs_sides _ (mem_twinPairs_of_conflict pair) p hp
  induction h with
  | empty =>
    have hempty : (Automaton.start, Automaton.start) ∉ conflictPairs := by decide
    exact absurd pair hempty
  | comment _ hc ih =>
    rw [Stack.spine_comment hc, Stack.spine_comment hc]
    exact ih hs.tail ht.tail pair inner hsides
  | @read s t c d n m below plain plain' _ _ leads leads' ih =>
    have hne : n ≠ m := by
      intro heq
      exact hsides _ (mem_twinPairs_of_conflict pair) heq
    have hmem : ∀ {a b : Nat}, leads? a c.symbol = some n → leads? b c.symbol = some m →
        (c.symbol, n, m) ∈ Automaton.partings (a, b) := fun ha hb => Automaton.mem_partings ha hb hne
    rw [Stack.spine_cons plain, Stack.spine_cons plain']
    rcases below.tops with heq | hpair | hpair
    · rw [heq, leads'] at leads
      exact absurd (Option.some.inj leads).symm hne
    · rcases Automaton.partings_enter _ hpair _ (hmem leads leads') pair inner with
        ⟨hin, hout, h22⟩ | ⟨hconflict, h22⟩
      · have hbelow := ih hs.tail ht.tail hin hout fun p hp =>
          Automaton.twinPairs_sides _ hpair p hp
        rw [← hs.tail.top_spine] at leads
        rw [← ht.tail.top_spine] at leads'
        exact .read hbelow leads leads' ⟨hne, h22, inner⟩
      · obtain ⟨rfl, rfl⟩ := Prod.mk.inj h22
        exact .base (below.faces_target hs.tail ht.tail hconflict)
    · rcases Automaton.mem_of_closed (Automaton.twinPairs_closed _ hpair) leads' leads with
        heq | hswapped
      · exact absurd heq.symm hne
      · exact absurd rfl (hsides _ (mem_twinPairs_of_conflict hswapped))
  | opened _ mem =>
    have hword : ∀ x ∈ crossings, x.word ∈ outer := by decide
    exact absurd (hword _ mem) inner
  | opened' _ mem => exact absurd rfl (hsides _ (seams_apart.2.2 _ (List.mem_append_left _
      (List.mem_append_left _ (crossings_seams _ mem).1))))
  | shut _ mem =>
    have hshut : ∀ x ∈ crossings, (x.closing, x.closing') ∉ conflictPairs := by decide
    exact absurd pair (hshut _ mem)
  | shut' _ mem => exact absurd rfl (hsides _ (seams_apart.2.2 _ (List.mem_append_left _
      (List.mem_append_right _ (crossings_seams _ mem).2.1))))
  | turned _ _ _ _ _ hturned =>
    have hnone : ∀ p ∈ Automaton.turnedPairs, p ∉ conflictPairs := by decide
    exact absurd pair (hnone _ hturned)
  | turned' _ _ _ _ _ hturned =>
    exact absurd rfl (hsides _ (seams_apart.2.2 _ (List.mem_append_right _ hturned)))

theorem reducesAlike_spec {p : Nat × Nat} {a b : Terminal} (h : Automaton.reducesAlike p a b = true) :
    leads? p.1 (.terminal a) = none ∧ leads? p.2 (.terminal b) = none ∧
      ∃ r, reduction? p.1 a = some r ∧ reduction? p.2 b = some r := by
  simp only [Automaton.reducesAlike, Bool.and_eq_true, decide_eq_true_eq] at h
  obtain ⟨⟨⟨hfirst, hsecond⟩, hsome⟩, heq⟩ := h
  obtain ⟨r, hr⟩ := Option.isSome_iff_exists.1 hsome
  exact ⟨hfirst, hsecond, r, hr, heq ▸ hr⟩

theorem not_leads_alike {p : Nat × Nat} {a b : Terminal} {n : Nat}
    (alike : Automaton.reducesAlike p a b = true) : leads? p.1 (.terminal a) ≠ some n := by
  rw [(reducesAlike_spec alike).1]
  nofun

/-- Where two states reduce alike, the other spine completes what the one completes. -/
theorem Takes.alike {k k' : Terminal} {s t t' : List Nat} {r : Reduction} (h : Takes k' t t')
    (alike : Automaton.reducesAlike (top s, top t) k k' = true)
    (asks : reduction? (top s) k = some r) : reduction? (top t) k' = some r ∧
      ∃ m, goto? (top (t.drop r.arity)) r.phrase = some m ∧ Takes k' (m :: t.drop r.arity) t' := by
  obtain ⟨_, hnone, r', hr, hr'⟩ := reducesAlike_spec alike
  obtain rfl := Option.some.inj (asks.symm.trans hr)
  cases h with
  | shift leads =>
    rw [hnone] at leads
    cases leads
  | reduce asks' leads rest =>
    obtain rfl := Option.some.inj (hr'.symm.trans asks')
    exact ⟨hr', _, leads, rest⟩

/-- Where both spines complete a phrase inside the target, they are in different states behind it. -/
theorem Facing.reduces {s t : List Nat} {k k' : Terminal} {r : Reduction} {n m : Nat} (h : Facing s t)
    (asks : reduction? (top s) k = some r) (asks' : reduction? (top t) k' = some r)
    (leads : goto? (top (s.drop r.arity)) r.phrase = some n)
    (leads' : goto? (top (t.drop r.arity)) r.phrase = some m)
    (inner : Automaton.isInner r = true) :
    Facing (n :: s.drop r.arity) (m :: t.drop r.arity) ∧ n ≠ 32 := by
  have hstart : ∀ p ∈ conflictPairs, p.1 ≠ Automaton.start := by decide
  have hclosed : ∀ s t, FacesTarget s t → ∀ g ∈ goals (top s), g ∈ goals (top t) →
      g.reduction ≠ r := by
    rintro s t ⟨x, mem, a, b, rfl, rfl⟩ g hg _ rfl
    have hphrase := Automaton.shared_target g hg
    simp [Automaton.isInner, hphrase] at inner
  obtain ⟨hrest, hspan⟩ :=
    Lockstep.reduces h hclosed (arity_ne_zero asks (hstart _ (Facing.tops h).1)) asks asks'
  obtain ⟨hpair, houter⟩ := Facing.tops hrest
  obtain ⟨x, a, b, ha, hb, hfit, hgoal, hgoal', hmore⟩ := hspan.first_child
  have hnew : n ≠ m ∧ n ∉ 22 :: 32 :: outer := by
    rcases Automaton.partsBehind_spec hpair houter ha hb hfit.1 hgoal hgoal' inner leads leads' with
      hnew | ⟨htwo, hnone⟩
    · exact hnew
    · rcases hmore with ⟨hone, _⟩ | ⟨y, n', m', hn', hm', hfit', hgoal₂, hgoal₂'⟩
      · exact absurd hone htwo
      · exact absurd hgoal₂' (hnone y n' m' hn' hm' hfit'.1 hgoal₂)
  simp only [List.mem_cons, not_or] at hnew
  obtain ⟨hne, h22, h32, hout⟩ := hnew
  rw [← leads?_nonterminal] at leads leads'
  exact ⟨.read hrest leads leads' ⟨hne, h22, hout⟩, h32⟩

/-- Behind the target of its clause the reading by shares completes the clause on any token. -/
theorem takes_clause {x : Crossing} (mem : x ∈ crossings) {k : Terminal} {l t : List Nat}
    (h : Takes k (398 :: 518 :: x.opening :: l) t) :
    ∃ n, leads? x.clauses (.terminal k) = some n ∧ t = n :: x.clauses :: x.opening :: l := by
  obtain ⟨_, hclause, hclauses, _⟩ := Automaton.clauses_do
  obtain ⟨_, _, _, _, hgoto, hgoto', _, _, hnone, _⟩ := Automaton.crossings_do x mem
  have honly : ∀ {q : Nat} {r : Reduction} {s : List Nat} {n : Nat},
      Automaton.onlyReduces q r = true → Takes k (q :: s) t →
      goto? (top ((q :: s).drop r.arity)) r.phrase = some n → Takes k (n :: (q :: s).drop r.arity) t := by
    intro q r s n honly htakes hgoto
    obtain ⟨hshifts, hreductions⟩ := (Automaton.onlyReduces_spec honly).2 k
    obtain ⟨r', hr'⟩ : ∃ r', reduction? q k = some r' := by
      rcases htakes.acts with hacts | hacts
      · rw [top, hshifts] at hacts
        cases hacts
      · exact Option.isSome_iff_exists.1 hacts
    obtain rfl := hreductions r' hr'
    exact htakes.reduces hshifts hr' hgoto
  exact (honly hclauses (honly hclause h hgoto) hgoto').shifts (hnone _ (Terminal.mem_all _))

/-- The reading by shares completes its clause before a token that starts the next one. -/
theorem takes_starter {x : Crossing} (mem : x ∈ crossings) {k : Terminal}
    (starts : k ∈ Automaton.starters) {l t : List Nat}
    (h : Takes k (319 :: 23 :: 518 :: x.opening :: l) t) :
    ∃ n, leads? x.clauses (.terminal k) = some n ∧ t = n :: x.clauses :: x.opening :: l := by
  have haccount : goto? 23 .destAccount = some 368 ∧ ∀ k ∈ Automaton.starters,
      leads? 319 (.terminal k) = none ∧ reduction? 319 k = some ⟨.destAccount, 1, .plain⟩ := by
    decide +kernel
  have hdestination : goto? 23 .destination = some 399 ∧ ∀ k ∈ Automaton.starters,
      leads? 368 (.terminal k) = none ∧ reduction? 368 k = some ⟨.destination, 1, .plain⟩ := by
    decide +kernel
  have hto : goto? 518 .destinationTo = some 396 ∧ ∀ k ∈ Automaton.starters,
      leads? 399 (.terminal k) = none ∧ reduction? 399 k = some ⟨.destinationTo, 2, .plain⟩ := by
    decide +kernel
  have hkept : goto? 518 .keptOrDestination = some 398 ∧ ∀ k ∈ Automaton.starters,
      leads? 396 (.terminal k) = none ∧ reduction? 396 k = some ⟨.keptOrDestination, 1, .plain⟩ := by
    decide +kernel
  have h₁ := h.reduces (haccount.2 k starts).1 (haccount.2 k starts).2 haccount.1
  have h₂ := h₁.reduces (hdestination.2 k starts).1 (hdestination.2 k starts).2 hdestination.1
  have h₃ := h₂.reduces (hto.2 k starts).1 (hto.2 k starts).2 hto.1
  exact takes_clause mem (h₃.reduces (hkept.2 k starts).1 (hkept.2 k starts).2 hkept.1)

/-- What two spines make of a hyphen that the one reads as an operator and the other as a sign. -/
structure Departs (s t : List Nat) : Prop where
  operator : ∃ l, s = 80 :: 488 :: 22 :: l
  sign : ∃ n q l, t = n :: q :: l ∧ (q = 28 ∨ q = 29) ∧ leads? q (.terminal .number) = some n

/-- Where the target is whole in the one reading and a value in the other, a number starts the next clause. -/
theorem Facing.at_number {s t t' : List Nat} (h : Facing s t) (first : top s = 488)
    (second : top t = 319) (ht : Takes .number t t') : (∃ l, s = 488 :: 22 :: l) ∧
      ∃ n q l, t' = n :: q :: l ∧ (q = 28 ∨ q = 29) ∧ leads? q (.terminal .number) = some n := by
  cases h with
  | base h =>
    obtain ⟨x, mem, a, b, rfl, rfl⟩ := h
    cases first
  | @read s t y a b below hleads hleads' fit =>
    obtain rfl : a = 488 := first
    obtain rfl : b = 319 := second
    have h23 := Automaton.enters_target hleads'
    have h22 : ∀ p ∈ conflictPairs, p.2 = 23 → p.1 = 22 := by decide
    have hbelow := h22 _ (Facing.tops below).1 h23
    cases below with
    | base h =>
      obtain ⟨x, mem, l, l', rfl, rfl⟩ := h
      obtain ⟨m, hm, rfl⟩ := takes_starter mem (by decide) ht
      have hclauses : ∀ x ∈ crossings, x.clauses = 28 ∨ x.clauses = 29 := by decide
      exact ⟨⟨_, rfl⟩, m, _, _, rfl, hclauses x mem, hm⟩
    | read _ _ _ fit' => exact absurd hbelow fit'.2.1

/-- Spines inside the target that read different tokens part at a hyphen. -/
theorem Facing.departs {s t s' t' : List Nat} {k k' : Terminal} (h : Facing s t)
    (plain : top s ≠ 32) (discord : (k, k') ∈ discords) (hs : Takes k s s') (ht : Takes k' t t') :
    k = .minus ∧ k' = .number ∧ Departs s' t' := by
  have hacts : ∀ {q : Nat} {k : Terminal}, (leads? q (.terminal k)).isSome = true ∨
      (reduction? q k).isSome = true → acts q k = true := by
    intro q k h
    rcases h with h | h <;> simp [acts, h]
  have hcase : ∀ {s t : List Nat}, Facing s t → top s ≠ 32 → acts (top s) k = true →
      acts (top t) k' = true → (top s, top t) = (488, 319) ∧ (k, k') = (.minus, .number) ∨
        Automaton.reducesAlike (top s, top t) k k' = true ∧
        (reduction? (top s) k).all Automaton.isInner = true := by
    intro s t h plain hk hk'
    obtain ⟨hpair, houter⟩ := Facing.tops h
    exact Automaton.discord_twinPairs _ hpair houter (by simp [plain]) _ discord hk hk'
  induction hs generalizing t with
  | @shift s n leads =>
    rcases hcase h plain (hacts (.inl (by simp [leads]))) (hacts ht.acts) with
      ⟨htops, hkinds⟩ | ⟨halike, _⟩
    · obtain ⟨hs488, ht319⟩ := Prod.mk.inj htops
      obtain ⟨rfl, rfl⟩ := Prod.mk.inj hkinds
      obtain ⟨⟨l, rfl⟩, hsign⟩ := h.at_number hs488 ht319 ht
      have hminus : leads? 488 (.terminal .minus) = some 80 := by decide +kernel
      obtain rfl := Option.some.inj (leads.symm.trans hminus)
      exact ⟨rfl, rfl, ⟨l, rfl⟩, hsign⟩
    · exact absurd leads (not_leads_alike halike)
  | @reduce s s' r n asks leads rest ih =>
    rcases hcase h plain (hacts (.inr (by simp [asks]))) (hacts ht.acts) with
      ⟨htops, hkinds⟩ | ⟨halike, hinner⟩
    · obtain ⟨hs488, _⟩ := Prod.mk.inj htops
      obtain ⟨rfl, rfl⟩ := Prod.mk.inj hkinds
      have hnone : reduction? 488 .minus = none := by decide +kernel
      rw [show top s = 488 from hs488, hnone] at asks
      cases asks
    · obtain ⟨asks', m, leads', rest'⟩ := ht.alike halike asks
      obtain ⟨hfacing, h32⟩ := h.reduces asks asks' leads leads' (by simpa [asks] using hinner)
      exact ih hfacing h32 rest'

/-- Where two spines start that have read a hyphen differently: behind the word `to` or behind the operator
the one, and before the next clause the other. -/
def PartsHere (s t : List Nat) : Prop := ∃ q l l', (q = 28 ∨ q = 29) ∧ t = q :: l' ∧
  (s = 22 :: l ∨ s = 80 :: 488 :: 22 :: l)

/-- Pairs of states that such spines come to. -/
def Together (n m : Nat) : Prop := (n, m) ∈ astrayPairs ∨ n = m ∧ m ∈ valueStates

/-- Spines that have read a hyphen differently, and the same tokens behind it. -/
abbrev Astray : List Nat → List Nat → Prop := Lockstep PartsHere Together

theorem PartsHere.tops {s t : List Nat} (h : PartsHere s t) :
    (top s, top t) ∈ Automaton.astrayBases := by
  obtain ⟨q, l, l', hq, rfl, hs⟩ := h
  have hbases : (22, 28) ∈ Automaton.astrayBases ∧ (22, 29) ∈ Automaton.astrayBases ∧
      (80, 28) ∈ Automaton.astrayBases ∧ (80, 29) ∈ Automaton.astrayBases := by decide
  rcases hq with rfl | rfl <;> rcases hs with rfl | rfl
  · exact hbases.1
  · exact hbases.2.2.1
  · exact hbases.2.1
  · exact hbases.2.2.2

theorem Astray.tops {s t : List Nat} (h : Astray s t) : (top s, top t) ∈ astrayTops := by
  cases h with
  | base h => exact List.mem_append_left _ (List.mem_append_left _ h.tops)
  | @read _ _ _ n m _ _ _ fit =>
    rcases fit with hpair | ⟨rfl, hvalue⟩
    · exact List.mem_append_left _ (List.mem_append_right _ hpair)
    · exact List.mem_append_right _ (List.mem_map.2 ⟨n, hvalue, rfl⟩)

/-- A symbol that leads on from both leaves them astray. -/
theorem Astray.next {s t : List Nat} {x : Symbol} {n m : Nat} (h : Astray s t)
    (leads : leads? (top s) x = some n) (leads' : leads? (top t) x = some m) :
    Astray (n :: s) (m :: t) ∧ Together n m := by
  obtain ⟨state, hstate, hleads⟩ := Option.bind_eq_some_iff.1 leads
  have hfit := Automaton.astrayTops_closed _ h.tops state hstate _
    (Automaton.State.mem_edges hleads) m leads'
  exact ⟨.read h leads leads' hfit, hfit⟩

/-- Where the reading with the operator reads a number as well, both are astray. -/
theorem Departs.astray {s t s' : List Nat} (h : Departs s t) (takes : Takes .number s s') :
    Astray s' t ∧ Together (top s') (top t) := by
  obtain ⟨⟨l, rfl⟩, n, q, l', rfl, hq, hleads⟩ := h
  have hnone : reduction? 80 .number = none := by decide +kernel
  obtain ⟨m, hm, rfl⟩ := takes.shifts hnone
  have hbase : Astray (80 :: 488 :: 22 :: l) (q :: l') := .base ⟨q, _, l', hq, rfl, .inr rfl⟩
  exact hbase.next hm hleads

theorem Departs.top_sign {s t : List Nat} (h : Departs s t) : top t = 276 := by
  obtain ⟨-, n, q, l, rfl, hq, hleads⟩ := h
  have hnext : ∀ q, q = 28 ∨ q = 29 → leads? q (.terminal .number) = some 276 := by
    rintro q (rfl | rfl) <;> decide +kernel
  exact (Option.some.inj ((hnext q hq).symm.trans hleads)).symm

theorem goals_astray : ∀ p ∈ Automaton.astrayBases, ∀ g ∈ goals p.1, g ∉ goals p.2 := by
  decide +kernel

/-- Both complete the same phrase. -/
theorem Astray.reduces {s t : List Nat} {k k' : Terminal} {r : Reduction} {n m : Nat} (h : Astray s t)
    (asks : reduction? (top s) k = some r) (asks' : reduction? (top t) k' = some r)
    (leads : goto? (top (s.drop r.arity)) r.phrase = some n)
    (leads' : goto? (top (t.drop r.arity)) r.phrase = some m) :
    Astray (n :: s.drop r.arity) (m :: t.drop r.arity) ∧ Together n m := by
  have hstart : ∀ p ∈ astrayTops, p.1 ≠ Automaton.start := by decide +kernel
  obtain ⟨hrest, _⟩ := Lockstep.reduces h
    (fun s t hbase g hg hg' => absurd hg' (goals_astray _ hbase.tops g hg))
    (arity_ne_zero asks (hstart _ (Astray.tops h))) asks asks'
  rw [← leads?_nonterminal] at leads leads'
  exact Astray.next hrest leads leads'

theorem acts_of_isSome {q : Nat} {k : Terminal} (h : (leads? q (.terminal k)).isSome = true ∨
    (reduction? q k).isSome = true) : acts q k = true := by
  rcases h with h | h <;> simp [acts, h]

theorem mem_actions {q : Nat} {k : Terminal} (h : acts q k = true) : k ∈ Automaton.actions q :=
  List.mem_filter.2 ⟨Terminal.mem_all k, h⟩

/-- Before a next operator the difference is completed, and stands where its first operand stood. -/
theorem Astray.subtracts {k : Terminal} {s t s' t' : List Nat} (h : Astray s t)
    (tops : (top s, top t) = (434, 450)) (operator : k = .plus ∨ k = .minus) (hs : Takes k s s')
    (ht : Takes k t t') : Astray s' t' := by
  obtain ⟨halone, hasks, hnone, halone', hasks', hnone', hinfixed, hvalue, hvalue', hvalue''⟩ :=
    Automaton.difference_do k (by simpa using operator)
  obtain ⟨h434, h450⟩ := Prod.mk.inj tops
  cases h with
  | base h =>
    have hbases : (434, 450) ∉ Automaton.astrayBases := by decide
    exact absurd (tops ▸ h.tops) hbases
  | @read s t x n m below leads leads' _ =>
    obtain rfl : n = 434 := h434
    obtain rfl : m = 450 := h450
    have h80 := ((Automaton.enters_difference leads).1 rfl).1
    have hq := ((Automaton.enters_difference leads').2 rfl).1
    cases below with
    | @base s t h =>
      obtain ⟨q, l, l', hclauses, rfl, rfl | rfl⟩ := h
      · cases h80
      · have hleft := ((hs.reduces halone hasks hinfixed).reduces halone' hasks' hvalue).shifts hnone'
        have hright := ht.shifts hnone
        obtain ⟨a, ha, rfl⟩ := hleft
        obtain ⟨b, hb, rfl⟩ := hright
        have hfirst : leads? 22 (.nonterminal .valueExpr) = some 488 := hvalue
        have hsecond : leads? q (.nonterminal .valueExpr) = some 450 := by
          rcases hclauses with rfl | rfl
          · exact hvalue'
          · exact hvalue''
        have hbase : Astray (22 :: l) (q :: l') := .base ⟨q, l, l', hclauses, rfl, .inl rfl⟩
        exact (Astray.next (Astray.next hbase hfirst hsecond).1 ha hb).1
    | @read _ _ _ a b _ _ _ fit =>
      have hnone : ∀ p ∈ astrayPairs, p.1 = 80 → p.2 ∉ [19, 20, 25, 26, 27, 28, 29] := by decide
      rcases fit with hpair | ⟨rfl, _⟩
      · exact absurd hq (hnone _ hpair h80)
      · obtain rfl : a = 80 := h80
        have h80' : 80 ∉ [19, 20, 25, 26, 27, 28, 29] := by decide
        exact absurd hq h80'

theorem Astray.takes {k : Terminal} {s t s' t' : List Nat} (h : Astray s t)
    (plain : k.isComment = false) (hs : Takes k s s') (ht : Takes k t t') : Astray s' t' := by
  have hcase : ∀ {s t : List Nat}, Astray s t → Takes k s s' → Takes k t t' →
      reduction? (top s) k = none ∧ reduction? (top t) k = none ∨
        Automaton.reducesAlike (top s, top t) k k = true ∨
        (top s, top t) = (434, 450) ∧ (k = .plus ∨ k = .minus) := by
    intro s t h hs ht
    have hacts := Automaton.acts_astrayTops _ (Astray.tops h) k
      (mem_actions (acts_of_isSome hs.acts)) (mem_actions (acts_of_isSome ht.acts))
    exact hacts.2.resolve_left (by simp [plain])
  induction hs generalizing t with
  | @shift s n leads =>
    rcases hcase h (.shift leads) ht with ⟨_, hnone⟩ | halike | ⟨htops, hk⟩
    · obtain ⟨m, leads', rfl⟩ := ht.shifts hnone
      exact (Astray.next h leads leads').1
    · exact absurd leads (not_leads_alike halike)
    · exact h.subtracts htops hk (.shift leads) ht
  | @reduce s s' r n asks leads rest ih =>
    rcases hcase h (.reduce asks leads rest) ht with ⟨hnone, _⟩ | halike | ⟨htops, hk⟩
    · rw [asks] at hnone
      cases hnone
    · obtain ⟨asks', m, leads', rest'⟩ := ht.alike halike asks
      exact ih (h.reduces asks asks' leads leads').1 rest' hcase
    · exact h.subtracts htops hk (.reduce asks leads rest) ht

theorem Takes.not_base {k : Terminal} {s t t' : List Nat} (h : Takes k t t') :
    (top s, top t') ∉ Automaton.astrayBases := by
  induction h with
  | @shift t n leads =>
    have henters := Automaton.entersCrossing_of_leads leads
    intro hbase
    have hclauses : ∀ p ∈ Automaton.astrayBases, ∃ x ∈ crossings, p.2 = x.clauses := by decide
    obtain ⟨x, mem, rfl : n = x.clauses⟩ := hclauses _ hbase
    have hx := List.all_eq_true.1 (Bool.and_eq_true_iff.1 (Bool.and_eq_true_iff.1 henters).1).1 x mem
    simp at hx
  | reduce _ _ _ ih => exact ih

theorem Together.not_base {n m : Nat} (h : Together n m) : (n, m) ∉ Automaton.astrayBases := by
  have hpairs : ∀ p ∈ astrayPairs, p ∉ Automaton.astrayBases := by decide
  have hsame : ∀ p ∈ Automaton.astrayBases, p.1 ≠ p.2 := by decide
  rcases h with hpair | ⟨rfl, _⟩
  · exact hpairs _ hpair
  · exact fun hbase => hsame _ hbase rfl

/-- No two spines that are astray push different tokens. -/
theorem Astray.refuses {k : Terminal} {s t s' t' : List Nat} (h : Astray s t)
    (inner : (top s, top t) ∉ Automaton.astrayBases)
    (discord : k ∈ [.kwRemaining, .kwDestination, .kwFrom, .kwAllowing, .kwTo, .kwMax,
      .destinationKept])
    (hs : Takes .identifier s s') (ht : Takes k t t') : False := by
  have hcase : ∀ {s t : List Nat}, Astray s t → (top s, top t) ∉ Automaton.astrayBases →
      acts (top s) .identifier = true → acts (top t) k = true →
      Automaton.reducesAlike (top s, top t) .identifier k = true := by
    intro s t h inner hs ht
    refine Automaton.discord_astrayTops _ ?_ k discord hs ht
    have htops := Astray.tops h
    rw [astrayTops, List.append_assoc] at htops
    exact (List.mem_append.1 htops).resolve_left inner
  induction hs generalizing t with
  | shift leads =>
    have halike := hcase h inner (acts_of_isSome (.inl (by simp [leads]))) (acts_of_isSome ht.acts)
    exact not_leads_alike halike leads
  | reduce asks leads rest ih =>
    have halike := hcase h inner (acts_of_isSome (.inr (by simp [asks]))) (acts_of_isSome ht.acts)
    obtain ⟨asks', m, leads', rest'⟩ := ht.alike halike asks
    obtain ⟨hastray, htogether⟩ := h.reduces asks asks' leads leads'
    exact ih hastray htogether.not_base rest'

end Numscript.Parser
