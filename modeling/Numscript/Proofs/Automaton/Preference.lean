import Numscript.Proofs.Automaton.Astray

/-!
# States that keep up

While a conflict is open, the reading that fills in order does what the reading by shares does, on all
tokens up to the closing brace. Only where the latter completes its clause and goes on to another one, which
begins with one of the `starters`, the former may fail.
-/
namespace Numscript.Automaton

open Lexer (expected apart)

/-- What is done behind the two readings of the braces: nothing but to complete the destination. -/
structure Turned (x : Crossing) : Prop where
  inOrder : onlyReduces x.inOrder ⟨.destination, 1, .plain⟩ = true
  allotment : onlyReduces x.allotment ⟨.destination, 1, .plain⟩ = true
  /-- The reading that fills in order is completed before all tokens that the other one is completed before. -/
  keeps : ∀ b ∈ Terminal.all, (reduction? x.allotment b).isSome = true → (reduction? x.inOrder b).isSome = true

instance (x : Crossing) : Decidable (Turned x) :=
  decidable_of_iff (_ ∧ _ ∧ _) ⟨fun ⟨h₁, h₂, h₃⟩ => ⟨h₁, h₂, h₃⟩, fun ⟨h₁, h₂, h₃⟩ => ⟨h₁, h₂, h₃⟩⟩

theorem turned_do : ∀ x ∈ crossings, Turned x := by
  decide +kernel

/-- Whether the first state of a pair finds a token as well, where the second one has found it. -/
def findsToo (p : Nat × Nat) (b : Terminal) : Bool :=
  match mode? p.1, mode? p.2 with
  | some m, some m' =>
    (expected m).contains b && (expected m).all fun a => (expected m').contains a || apart a b
  | _, _ => false

/-- Whether the first state of a pair does with a token what the second one does. -/
def keepsUp (p : Nat × Nat) (b : Terminal) : Bool :=
  b.isComment ||
  (leads? p.1 (.terminal b)).isSome && (leads? p.2 (.terminal b)).isSome &&
    (reduction? p.2 b).isNone ||
  (leads? p.2 (.terminal b)).isNone && (reduction? p.2 b).isSome &&
    reduction? p.1 b = reduction? p.2 b

/-- The states behind a whole phrase of a target, which is followed by another clause. -/
def sharingEnds : List Nat :=
  [237, 280, 281, 282, 285, 286, 288, 289, 290, 291, 292, 293, 294, 295, 296, 297, 298, 299, 300, 301,
   302, 303, 306, 307, 308, 309, 310, 312, 313, 314, 315, 319]

/-- The states of the reading by shares inside a target. -/
def sharing : List Nat := sharingEnds ++
  [38, 49, 58, 68, 78, 88, 98, 107, 501, 511, 536, 546, 555, 600, 609, 623, 632]

theorem keepsUp_conflictPairs : ∀ p ∈ conflictPairs, ∀ b ∈ actions p.2,
    b ≠ .endOfText ∧ (findsToo p b = true ∧
      (keepsUp p b = true ∨ p ∈ [(677, 398), (678, 398)] ∧ b = .rbrace) ∨
    b ∈ starters ∧ (p.2 ∈ sharingEnds ∨ p.2 = 398)) := by
  decide +kernel

theorem keepsUp_shutPairs : ∀ p ∈ shutPairs, ∀ b ∈ actions p.2,
    b ≠ .endOfText ∧ findsToo p b = true ∧ (b.isComment = true ∨ (reduction? p.1 b).isSome = true) := by
  decide +kernel

theorem sharing_of_conflict : ∀ p ∈ conflictPairs,
    p.2 ∈ sharing ∨ p = (22, 23) ∨ p ∈ conflicts ∨ p ∈ [(677, 398), (678, 398)] := by
  decide

/-- Behind a whole phrase nothing but a completion is done before another clause. -/
theorem sharingEnds_reduce : ∀ q ∈ sharingEnds, ∀ b ∈ starters, leads? q (.terminal b) = none ∧
    ∀ r ∈ reduction? q b, r.phrase ≠ .destinationTo ∧
      (r.phrase = .destAccount → q = 319 ∧ r = ⟨.destAccount, 1, .plain⟩) := by
  decide +kernel

/-- The children of a phrase inside a target lead through states of the reading by shares. -/
def sharesBehind (q : Nat) : Bool :=
  match state? q with
  | some s => s.edges.all fun e => !sharing.contains e.2 ||
    ((goals e.2).filter (·.read == 1)).all fun g =>
      g.reduction.phrase == .destAccount ||
      ((goto? q g.reduction.phrase).all sharingEnds.contains) ||
      g.reduction.arity != 1 && (match state? e.2 with
        | some s' => s'.edges.all fun e' => !sharing.contains e'.2 ||
          !(goals e'.2).contains ⟨g.reduction, 2⟩
        | none => true)
  | none => true

theorem sharesBehind_of_mem : ∀ q ∈ 23 :: sharing, sharesBehind q = true := by
  decide +kernel

theorem sharesBehind_spec {q n a : Nat} {x : Symbol} {r : Reduction} (mem : q ∈ 23 :: sharing)
    (leads : leads? q x = some a) (child : a ∈ sharing) (goal : ⟨r, 1⟩ ∈ goals a)
    (inner : r.phrase ≠ .destAccount) (hn : goto? q r.phrase = some n) : n ∈ sharingEnds ∨
      r.arity ≠ 1 ∧ ∀ y b, leads? a y = some b → b ∈ sharing → ⟨r, 2⟩ ∉ goals b := by
  have hall := sharesBehind_of_mem q mem
  obtain ⟨s, hs, hleads⟩ := Option.bind_eq_some_iff.1 leads
  rw [sharesBehind, hs] at hall
  have hedge := List.all_eq_true.1 hall _ (State.mem_edges hleads)
  simp only [List.contains_eq_mem, child, decide_true, Bool.not_true, Bool.false_or] at hedge
  have hgoal := List.all_eq_true.1 hedge _ (List.mem_filter.2 ⟨goal, rfl⟩)
  simp only [hn, Option.all_some, Bool.or_eq_true, beq_iff_eq, inner, false_or, Bool.and_eq_true,
    bne_iff_ne] at hgoal
  refine hgoal.imp List.contains_iff_mem.1 fun ⟨harity, hnone⟩ => ⟨harity, fun y b hb hshares hsecond => ?_⟩
  obtain ⟨s', hs', hleads'⟩ := Option.bind_eq_some_iff.1 hb
  rw [hs'] at hnone
  have hedge' := List.all_eq_true.1 hnone _ (State.mem_edges hleads')
  simp [hshares, hsecond] at hedge'

/-- Before the brace that closes the clause the reading that fills in order keeps up, and before the value
that begins another clause it does not. -/
example : keepsUp (488, 319) .plus = true ∧ keepsUp (488, 319) .variableName = false := by
  decide +kernel

theorem enters_sharing {q n : Nat} {x : Symbol} (h : leads? q x = some n) :
    (n ∈ sharing → q ≠ 518 ∧ q ≠ 398) ∧ (n = 23 → q = 518) := by
  have hall : enteredBy (fun q _ n => (!sharing.contains n || q != 518 && q != 398) &&
      (n != 23 || q == 518)) = true := by decide +kernel
  have henters := of_enteredBy hall h
  simp only [Bool.and_eq_true, Bool.or_eq_true, Bool.not_eq_true', List.contains_eq_mem,
    decide_eq_false_iff_not, bne_iff_ne, beq_iff_eq] at henters
  exact ⟨fun hn => henters.1.resolve_left (not_not.2 hn),
    fun hn => henters.2.resolve_left (not_not.2 hn)⟩

end Numscript.Automaton
