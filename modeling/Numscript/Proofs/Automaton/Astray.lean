import Numscript.Proofs.Lexer.Own

/-!
# States that read different tokens

While a conflict is open, the two states of a pair may read a hyphen differently: behind a value the one
expects an operator or the closing brace, where the other may also meet the next clause, which can start with
a negative number. The one then goes on in the operand of a subtraction, and the other in the next clause.
The pairs of states that they come to are listed here. They do the same on all tokens that both of them
act on, until one of them fails.
-/
namespace Numscript.Automaton

/-- Tokens of different kinds that the states of a pair may find in the same place. -/
def discords : List (Terminal × Terminal) :=
  [(.minus, .number), (.kwDestination, .identifier), (.kwFrom, .identifier),
   (.kwAllowing, .identifier), (.kwTo, .identifier), (.kwMax, .identifier),
   (.kwRemaining, .identifier), (.destinationKept, .identifier), (.kwSend, .identifier),
   (.kwSave, .identifier), (.identifier, .kwRemaining)]

/-- The tokens that a next clause may begin with. -/
def starters : List Terminal :=
  [.lparen, .lbracket, .atSign, .kwOverdraft, .kwRemaining, .variableName, .identifier, .number,
   .asset, .percentagePortion, .string]

/-- The pairs behind the target of the clause, and those at the word before it. -/
def outer : List Nat := [516, 517, 677, 678]

/-- Whether two states find the same token, as far as they act on it. -/
def finds? (p : Nat × Nat) (a b : Terminal) : Bool :=
  match mode? p.1, mode? p.2 with
  | some m, some m' => Lexer.agrees? m m' a b
  | _, _ => false

/-- The tokens that a state acts on. -/
def actions (q : Nat) : List Terminal := Terminal.all.filter (acts q)

theorem finds_twinPairs : ∀ p ∈ twinPairs, ∀ a ∈ actions p.1, ∀ b ∈ actions p.2,
    finds? p a b = true ∨ (a, b) ∈ discords ∧ p ∈ conflictPairs ∧ p.1 ∉ outer ∧ p ≠ (32, 38) := by
  decide +kernel

/-- Whether both states of a pair only reduce on their tokens, and the same phrase. -/
def reducesAlike (p : Nat × Nat) (a b : Terminal) : Bool :=
  leads? p.1 (.terminal a) = none && leads? p.2 (.terminal b) = none &&
    (reduction? p.1 a).isSome && reduction? p.1 a = reduction? p.2 b

/-- Whether a reduction completes a phrase inside the target of the clause. -/
def isInner (r : Reduction) : Bool := r.phrase != .destAccount && r.phrase != .destinationTo

/-- On differing tokens the states of a pair reduce alike, up to the hyphen behind a whole value. -/
theorem discord_twinPairs : ∀ p ∈ conflictPairs, p.1 ∉ outer → p ≠ (32, 38) → ∀ d ∈ discords,
    acts p.1 d.1 = true → acts p.2 d.2 = true →
    p = (488, 319) ∧ d = (.minus, .number) ∨
      reducesAlike p d.1 d.2 = true ∧ (reduction? p.1 d.1).all isInner = true := by
  decide +kernel

/-- What leads from a pair to another one with different states. -/
def partings (p : Nat × Nat) : List (Symbol × Nat × Nat) :=
  match state? p.1 with
  | some s => s.edges.filterMap fun e =>
    match leads? p.2 e.1 with
    | some m => if e.2 = m then none else some (e.1, e.2, m)
    | none => none
  | none => []

/-- The reductions that both states of a pair are in the midst of, with a number of children read. -/
def shared (p : Nat × Nat) (read : Nat) : List Reduction :=
  ((goals p.1).filter fun g => (goals p.2).contains g && g.read == read).map (·.reduction)

/-- Whether a phrase leads from a pair to another pair inside the target. -/
def staysInside (p : Nat × Nat) (phrase : Nonterminal) : Bool :=
  match goto? p.1 phrase, goto? p.2 phrase with
  | some n, some m => n != m && !(22 :: 32 :: outer).contains n
  | _, _ => true

/-- Whether a phrase that both states of a pair read leads to different states again. -/
def partsBehind (p : Nat × Nat) : Bool :=
  (partings p).all fun e => (shared e.2 1).all fun r =>
    !isInner r || staysInside p r.phrase ||
      r.arity != 1 && (partings e.2).all fun e' => !(shared e'.2 2).contains r

theorem shared_target : ∀ g ∈ goals 22, g.reduction.phrase = .destinationTo := by decide +kernel

theorem partsBehind_of_mem : ∀ p ∈ conflictPairs, p.1 ∉ outer → partsBehind p = true := by
  decide +kernel

theorem mem_partings {p : Nat × Nat} {x : Symbol} {n m : Nat} (leads : leads? p.1 x = some n)
    (leads' : leads? p.2 x = some m) (h : n ≠ m) : (x, n, m) ∈ partings p := by
  obtain ⟨s, hs, hleads⟩ := Option.bind_eq_some_iff.1 leads
  rw [partings, hs]
  refine List.mem_filterMap.2 ⟨(x, n), State.mem_edges hleads, ?_⟩
  simp [leads', h]

theorem mem_shared {p : Nat × Nat} {r : Reduction} {read : Nat} (h : ⟨r, read⟩ ∈ goals p.1)
    (h' : ⟨r, read⟩ ∈ goals p.2) : r ∈ shared p read :=
  List.mem_map.2 ⟨⟨r, read⟩, List.mem_filter.2 ⟨h, by simp [h']⟩, rfl⟩

theorem partsBehind_spec {p : Nat × Nat} {x : Symbol} {n m a b : Nat} {r : Reduction}
    (mem : p ∈ conflictPairs) (inside : p.1 ∉ outer) (leads : leads? p.1 x = some n)
    (leads' : leads? p.2 x = some m) (apart : n ≠ m) (goal : ⟨r, 1⟩ ∈ goals n)
    (goal' : ⟨r, 1⟩ ∈ goals m) (inner : isInner r = true) (hn : goto? p.1 r.phrase = some a)
    (hm : goto? p.2 r.phrase = some b) : a ≠ b ∧ a ∉ 22 :: 32 :: outer ∨
      r.arity ≠ 1 ∧ ∀ y n' m', leads? n y = some n' → leads? m y = some m' → n' ≠ m' →
        ⟨r, 2⟩ ∈ goals n' → ⟨r, 2⟩ ∉ goals m' := by
  have hparts := partsBehind_of_mem p mem inside
  have hone := List.all_eq_true.1 hparts _ (mem_partings leads leads' apart)
  have hchild := List.all_eq_true.1 hone r (mem_shared goal goal')
  rw [inner, staysInside, hn, hm] at hchild
  simp only [Bool.not_true, Bool.false_or, Bool.or_eq_true, Bool.and_eq_true, bne_iff_ne,
    Bool.not_eq_true', List.contains_eq_mem, decide_eq_false_iff_not] at hchild
  refine hchild.imp id fun ⟨harity, hnone⟩ => ⟨harity, fun y n' m' hn' hm' hne hg hg' => ?_⟩
  have hsecond := List.all_eq_true.1 hnone _ (@mem_partings (n, m) y n' m' hn' hm' hne)
  have hmem := @mem_shared (n', m') r 2 hg hg'
  simp [hmem] at hsecond

theorem partings_enter : ∀ p ∈ twinPairs, ∀ e ∈ partings p, e.2 ∈ conflictPairs → e.2.1 ∉ outer →
    p ∈ conflictPairs ∧ p.1 ∉ outer ∧ e.2.1 ≠ 22 ∨ p ∈ conflicts ∧ e.2 = (22, 23) := by
  decide +kernel

theorem enters_target {q : Nat} {x : Symbol} (h : leads? q x = some 319) : q = 23 := by
  have hall : enteredBy (fun q _ n => n != 319 || q == 23) = true := by decide +kernel
  have henters := of_enteredBy hall h
  simpa using henters

/-- What the states behind an operand do on an operator: of a difference, and of the first value of a clause. -/
structure EndsDifference (k : Terminal) : Prop where
  /-- The difference is complete before the operator. -/
  holds : leads? 434 (.terminal k) = none
  completes : reduction? 434 k = some ⟨.infixExpr, 3, .operation⟩
  /-- The first value of the clause is not. -/
  waits : reduction? 450 k = none
  /-- In the target a whole difference is a value, and the value waits for the operator. -/
  holdsValue : leads? 270 (.terminal k) = none
  isValue : reduction? 270 k = some ⟨.valueExpr, 1, .plain⟩
  waitsWhole : reduction? 488 k = none
  difference : goto? 22 .infixExpr = some 270
  whole : goto? 22 .valueExpr = some 488
  next : goto? 28 .valueExpr = some 450
  last : goto? 29 .valueExpr = some 450

instance (k : Terminal) : Decidable (EndsDifference k) :=
  decidable_of_iff (_ ∧ _ ∧ _ ∧ _ ∧ _ ∧ _ ∧ _ ∧ _ ∧ _ ∧ _)
    ⟨fun ⟨h₁, h₂, h₃, h₄, h₅, h₆, h₇, h₈, h₉, h₁₀⟩ => ⟨h₁, h₂, h₃, h₄, h₅, h₆, h₇, h₈, h₉, h₁₀⟩,
      fun ⟨h₁, h₂, h₃, h₄, h₅, h₆, h₇, h₈, h₉, h₁₀⟩ => ⟨h₁, h₂, h₃, h₄, h₅, h₆, h₇, h₈, h₉, h₁₀⟩⟩

theorem difference_do : ∀ k ∈ [Terminal.plus, .minus], EndsDifference k := by
  decide +kernel

/-- The pairs in which two stacks start that have read a hyphen differently. -/
def astrayBases : List (Nat × Nat) := [(22, 28), (22, 29), (80, 28), (80, 29)]

/-- The pairs that they come to. -/
def astrayPairs : List (Nat × Nat) :=
  [(42, 43), (51, 52), (70, 71), (80, 81), (90, 91), (363, 401), (364, 402), (365, 406), (366, 407),
   (432, 403), (434, 404), (434, 450), (436, 405), (488, 450), (593, 594), (602, 603), (616, 617),
   (625, 626)]

/-- The states inside a value, in which both stand when they have come to the same state. -/
def valueStates : List Nat :=
  [31, 32, 42, 44, 51, 53, 61, 62, 70, 72, 80, 82, 90, 92, 100, 101, 111, 113, 192, 238, 239, 250,
   259, 260, 263, 264, 265, 266, 267, 268, 269, 270, 271, 272, 273, 274, 275, 276, 277, 278, 279,
   283, 284, 304, 305, 311, 316, 317, 322, 323, 324, 325, 326, 327, 328, 329, 330, 331, 332, 333,
   334, 335, 336, 337, 338, 339, 340, 341, 342, 343, 344, 345, 346, 363, 364, 365, 366, 432, 434,
   436, 446, 484, 486, 494, 495, 504, 505, 529, 530, 539, 540, 548, 549, 567, 593, 595, 602, 604,
   616, 618, 625, 627]

/-- All pairs of states of stacks that have read a hyphen differently. -/
def astrayTops : List (Nat × Nat) := astrayBases ++ astrayPairs ++ valueStates.map fun q => (q, q)

theorem astrayTops_closed : ∀ p ∈ astrayTops, ∀ s ∈ state? p.1, ∀ e ∈ s.edges,
    ∀ m ∈ leads? p.2 e.1, (e.2, m) ∈ astrayPairs ∨ e.2 = m ∧ m ∈ valueStates := by
  decide +kernel

/-- What the two states of such a pair do on a token: they both push it, or they reduce alike. -/
theorem acts_astrayTops : ∀ p ∈ astrayTops, ∀ t ∈ actions p.1, t ∈ actions p.2 → p.1 ≠ final ∧
    (t.isComment = true ∨
    reduction? p.1 t = none ∧ reduction? p.2 t = none ∨ reducesAlike p t t = true ∨
    p = (434, 450) ∧ (t = .plus ∨ t = .minus)) := by
  decide +kernel

/-- Behind the difference there stand the operand, and the first value of the next clause. -/
theorem enters_difference {q n : Nat} {x : Symbol} (h : leads? q x = some n) :
    (n = 434 → q = 80 ∧ x = .nonterminal .valueExpr) ∧
      (n = 450 → q ∈ [19, 20, 25, 26, 27, 28, 29] ∧ x = .nonterminal .valueExpr) := by
  have hall : enteredBy (fun q x n => (n != 434 || q == 80 && x == .nonterminal .valueExpr) &&
      (n != 450 || [19, 20, 25, 26, 27, 28, 29].contains q && x == .nonterminal .valueExpr)) =
      true := by decide +kernel
  have henters := of_enteredBy hall h
  simp only [Bool.and_eq_true, Bool.or_eq_true, bne_iff_ne, beq_iff_eq,
    List.contains_iff_mem] at henters
  exact ⟨fun e => henters.1.resolve_left (not_not.2 e),
    fun e => henters.2.resolve_left (not_not.2 e)⟩

/-- Behind the start they find the same token, or reduce until one of them fails. -/
theorem finds_astrayPairs : ∀ p ∈ astrayPairs, ∀ a ∈ actions p.1, ∀ b ∈ actions p.2,
    finds? p a b = true ∨ a = .identifier ∧
      b ∈ [.kwRemaining, .kwDestination, .kwFrom, .kwAllowing, .kwTo, .kwMax, .destinationKept] := by
  decide +kernel

theorem discord_astrayTops : ∀ p ∈ astrayPairs ++ valueStates.map fun q => (q, q),
    ∀ b ∈ [.kwRemaining, .kwDestination, .kwFrom, .kwAllowing, .kwTo, .kwMax, .destinationKept],
    acts p.1 .identifier = true → acts p.2 b = true → reducesAlike p .identifier b = true := by
  decide +kernel

theorem pairs_sides : ∀ p ∈ twinPairs ++ (astrayBases ++ astrayPairs),
    ∀ q ∈ twinPairs ++ (astrayBases ++ astrayPairs), p.1 ≠ q.2 := by
  decide +kernel

/-- Behind the operand the difference is complete before a plus, and the value of the clause is not. -/
example : (434, 450) ∈ astrayPairs ∧ acts 434 .plus = true ∧ reduction? 450 .plus = none := by
  decide +kernel

end Numscript.Automaton
