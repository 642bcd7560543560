import Numscript.Proofs.Automaton.Goal

/-!
# Pairs of states

Two runs that took the two ways out of the conflict stand in different states until the braces are
closed. The pairs of states that they come to together are listed here, first the state of the run
that pushed, then the state of the run that reduced. From a pair, a symbol leads to one state or to
another pair; and on one token both states do the same, but for the conflict itself and for the brace
that closes it.
-/
namespace Numscript

namespace Automaton

/-- The states at which the conflict is met, and where a push and a reduction lead. -/
def conflicts : List (Nat × Nat) := [(516, 518), (517, 518)]

/-- The pairs that the two ways out of the conflict lead to. -/
def conflictPairs : List (Nat × Nat) := conflicts ++
  [(22, 23), (32, 38), (42, 49), (51, 58), (61, 68), (70, 78), (80, 88), (90, 98), (101, 107),
   (192, 237), (238, 280), (239, 281), (250, 282), (259, 285), (260, 286), (263, 288), (264, 289),
   (265, 290), (266, 291), (267, 292), (268, 293), (269, 294), (270, 295), (271, 296), (272, 297),
   (273, 298), (274, 299), (275, 300), (276, 301), (277, 302), (278, 303), (283, 312), (284, 315),
   (363, 306), (364, 307), (365, 313), (366, 314), (432, 308), (434, 309), (436, 310), (488, 319),
   (494, 501), (504, 511), (529, 536), (539, 546), (548, 555), (593, 600), (602, 609), (616, 623),
   (625, 632), (677, 398), (678, 398)]

/-- The pairs behind the brace that closes a single remaining clause. -/
def shutPairs : List (Nat × Nat) := [(373, 372), (586, 582)]

/-- The pairs behind the two readings of a single remaining clause. -/
def turnedPairs : List (Nat × Nat) := [(370, 369), (579, 578)]

/-- All pairs of states that two runs through the conflict come to together. -/
def twinPairs : List (Nat × Nat) := conflictPairs ++ shutPairs ++ turnedPairs

/-- Whether a symbol leads from a pair of states to one state or to a pair of a list. -/
def closed (pairs : List (Nat × Nat)) (p : Nat × Nat) : Bool :=
  match state? p.1 with
  | some s => s.edges.all fun e =>
    match leads? p.2 e.1 with
    | some next => e.2 == next || pairs.contains (e.2, next)
    | none => true
  | none => false

theorem twinPairs_closed : ∀ p ∈ twinPairs, closed conflictPairs p = true := by decide +kernel

theorem mem_of_closed {pairs : List (Nat × Nat)} {a b n m : Nat} {x : Symbol}
    (h : closed pairs (a, b) = true) (ha : leads? a x = some n) (hb : leads? b x = some m) :
    n = m ∨ (n, m) ∈ pairs := by
  obtain ⟨s, hs, hx⟩ := Option.bind_eq_some_iff.1 ha
  simp only [closed, hs] at h
  have hedge := List.all_eq_true.1 h _ (State.mem_edges hx)
  simpa [hb] using hedge

theorem twinPairs_sides : ∀ p ∈ twinPairs, ∀ q ∈ twinPairs, p.1 ≠ q.2 := by decide +kernel

/-- The states on the two ways through braces around a single remaining clause. -/
structure Crossing where
  /-- Behind the opening brace. -/
  opening : Nat
  /-- Behind the word, where the conflict is met. -/
  word : Nat
  /-- Behind the word and its target. -/
  target : Nat
  /-- Behind the closing brace of a destination that is filled in order. -/
  closing : Nat
  /-- Behind the clauses of an allotment. -/
  clauses : Nat
  /-- Behind the closing brace of an allotment. -/
  closing' : Nat
  /-- Behind the destination that is filled in order. -/
  inOrder : Nat
  /-- Behind the allotment. -/
  allotment : Nat
  deriving DecidableEq

/-- Where one state of a pair pushes a token that the other one reduces on. -/
theorem shift_beside_reduction : ∀ p ∈ twinPairs, ∀ t ∈ Terminal.all,
    (leads? p.1 (.terminal t)).isSome && (reduction? p.2 t).isSome →
      p ∈ [(677, 398), (678, 398)] ∧ t = .rbrace := by decide +kernel

theorem reduction_beside_shift : ∀ p ∈ twinPairs, ∀ t ∈ Terminal.all,
    (reduction? p.1 t).isSome && (leads? p.2 (.terminal t)).isSome → p ∈ conflicts := by
  decide +kernel

/-- Where both states of a pair reduce, they reduce alike until the conflict is closed. -/
theorem reduction_beside_reduction : ∀ p ∈ twinPairs, ∀ t ∈ Terminal.all,
    (reduction? p.1 t).isSome && (reduction? p.2 t).isSome →
      reduction? p.1 t = reduction? p.2 t ∨ p ∈ shutPairs := by
  decide +kernel

/-- The brace that closes a single remaining clause tells the two readings apart. -/
example : (373, 372) ∈ shutPairs ∧ reduction? 373 .rparen = some ⟨.destInorder, 4, .plain⟩ ∧
    reduction? 372 .rparen = some ⟨.destAllotment, 3, .plain⟩ := by
  decide +kernel

theorem conflict_of_mem : ∀ page ∈ pages, ∀ s ∈ page, ∀ r ∈ s.reductions, ∀ t ∈ r.2,
    (s.shift? t).isSome → s.core = 516 := by
  decide +kernel

/-- The braces of a destination that stands alone, and of one that is followed by more clauses. -/
def crossings : List Crossing :=
  [⟨19, 516, 677, 373, 28, 372, 370, 369⟩, ⟨20, 517, 678, 586, 29, 582, 579, 578⟩]

theorem word_of_core : ∀ q < stateCount, ∀ s ∈ state? q, s.core = 516 →
    ∃ x ∈ crossings, q = x.word := by
  decide +kernel

/-- Where a state both pushes and reduces on a token, it meets the conflict. -/
theorem conflict_of_both {q n : Nat} {t : Terminal} {r : Reduction}
    (leads : leads? q (.terminal t) = some n) (asks : reduction? q t = some r) :
    ∃ x ∈ crossings, q = x.word := by
  obtain ⟨s, hs, hleads⟩ := Option.bind_eq_some_iff.1 leads
  obtain ⟨s', hs', hasks⟩ := Option.bind_eq_some_iff.1 asks
  obtain rfl : s = s' := Option.some.inj (hs.symm.trans hs')
  obtain ⟨before, hmem, hbefore⟩ := State.mem_reductions hasks
  obtain ⟨page, hpage, hin⟩ := mem_pages_of_state? hs
  have hshift : (s.shift? t).isSome = true := by
    rw [State.leads?] at hleads
    rw [hleads]
    rfl
  exact word_of_core q (lt_stateCount_of_state? hs) s hs
    (conflict_of_mem page hpage s hin _ hmem t hbefore hshift)

/-- What enters a state, as a check of all states at once. -/
def enteredBy (check : (q : Nat) → Symbol → (next : Nat) → Bool) : Bool :=
  (List.range stateCount).all fun q =>
    match state? q with
    | some s => s.edges.all fun e => check q e.1 e.2
    | none => true

theorem of_enteredBy {check : Nat → Symbol → Nat → Bool} (h : enteredBy check = true) {q n : Nat}
    {x : Symbol} (hx : leads? q x = some n) : check q x n = true := by
  obtain ⟨s, hs, hedge⟩ := Option.bind_eq_some_iff.1 hx
  have hq := List.all_eq_true.1 h q (List.mem_range.2 (lt_stateCount_of_state? hs))
  simp only [hs] at hq
  exact List.all_eq_true.1 hq _ (State.mem_edges hedge)

/-- The states of a crossing are entered from one another alone, each by its own symbol. -/
def entersCrossing (q : Nat) (x : Symbol) (n : Nat) : Bool :=
  (crossings.all fun c =>
    (n != c.opening || x == .terminal .lbrace) &&
    (n != c.word || q == c.opening && x == .terminal .kwRemaining) &&
    (n != c.target || q == c.word && x == .nonterminal .keptOrDestination) &&
    (n != c.closing || q == c.target && x == .terminal .rbrace) &&
    (n != c.clauses || q == c.opening && x == .nonterminal .destClauses) &&
    (n != c.closing' || q == c.clauses && x == .terminal .rbrace)) &&
  (n != 518 || x == .nonterminal .allotment) &&
  (n != 398 || q == 518 && x == .nonterminal .keptOrDestination)

theorem entersCrossing_of_leads {q n : Nat} {x : Symbol} (h : leads? q x = some n) :
    entersCrossing q x n = true :=
  of_enteredBy (by decide +kernel) h

/-- Whether a state does nothing but a reduction. -/
def onlyReduces (q : Nat) (r : Reduction) : Bool :=
  match state? q with
  | some s => s.shifts.isEmpty && s.reductions.all (·.1 == r) && q != final
  | none => false

theorem onlyReduces_spec {q : Nat} {r : Reduction} (h : onlyReduces q r = true) : q ≠ final ∧
    ∀ t, leads? q (.terminal t) = none ∧ ∀ r', reduction? q t = some r' → r' = r := by
  unfold onlyReduces at h
  cases hs : state? q with
  | none => simp [hs] at h
  | some s =>
    simp only [hs, Bool.and_eq_true, List.isEmpty_iff, bne_iff_ne] at h
    obtain ⟨⟨hshifts, hreductions⟩, hfinal⟩ := h
    refine ⟨hfinal, fun t => ⟨?_, fun r' hr' => ?_⟩⟩
    · simp [leads?, hs, State.leads?, State.shift?, hshifts]
    · rw [reduction?, hs, Option.bind_some] at hr'
      obtain ⟨before, hmem, _⟩ := State.mem_reductions hr'
      simpa using List.all_eq_true.1 hreductions _ hmem

/-- What the states of a crossing do, and where its phrases lead. -/
theorem crossings_do : ∀ x ∈ crossings,
    onlyReduces x.closing ⟨.destInorder, 4, .plain⟩ = true ∧
    onlyReduces x.closing' ⟨.destAllotment, 3, .plain⟩ = true ∧
    goto? x.opening .remainingAllotment = some 558 ∧ goto? x.opening .allotment = some 518 ∧
    goto? x.opening .allotmentClauseDest = some 393 ∧
    goto? x.opening .destClauses = some x.clauses ∧
    leads? x.target (.terminal .rbrace) = some x.closing ∧
    leads? x.clauses (.terminal .rbrace) = some x.closing' ∧
    (∀ t ∈ Terminal.all, reduction? x.clauses t = none) ∧
    (∀ t ∈ Terminal.all, ∀ r ∈ reduction? x.word t, r = ⟨.remainingAllotment, 1, .plain⟩) := by
  decide +kernel

theorem clauses_do : onlyReduces 558 ⟨.allotment, 1, .plain⟩ = true ∧
    onlyReduces 398 ⟨.allotmentClauseDest, 2, .plain⟩ = true ∧
    onlyReduces 393 ⟨.destClauses, 1, .plain⟩ = true ∧
    (∀ t ∈ Terminal.all, reduction? 518 t = none) := by
  decide +kernel

/-- Below an opening brace the two readings of the braces lead to a pair. -/
theorem turned_of_opening : ∀ q < stateCount, ∀ x ∈ crossings,
    leads? q (.terminal .lbrace) = some x.opening →
      goto? q .destInorder = some x.inOrder ∧ goto? q .destAllotment = some x.allotment := by
  decide +kernel

theorem reduction?_final : ∀ t ∈ Terminal.all, reduction? final t = none := by decide +kernel

theorem final_not_mem_twinPairs : ∀ p ∈ twinPairs, p.1 ≠ final ∧ p.2 ≠ final := by decide +kernel

/-- Behind the last state nothing is done but to accept. -/
example : action? final .endOfText = some .accept ∧ reduction? final .endOfText = none := by
  decide +kernel

end Automaton
end Numscript
