import Mathlib.Data.List.Sections
import Numscript.Automaton.Table
import Numscript.Symbol.Symbol
import Numscript.Proofs.Grammar.Production

/-!
# Goals

What a state of the parsing automaton is in the midst of. A goal is a reduction together with the
number of its children that stand on top of the stack: the state's own reductions have all of them
there, and the unfinished ones are given by a table. States that differ in lookaheads only have the
same unfinished goals.

The table is checked against every edge of the automaton. The symbol on an edge is the last child
read of every goal behind it, and before the edge the goal had one child less. Where the first child
of a goal is read, the complete phrase leads on.
-/
namespace Numscript

/-- The number of children that a layout may give a role to. -/
def Layout.reach : Layout → Nat
  | .plain => 0
  | .sentLiteral | .accountVariable | .call | .unboundedOverdraft => 1
  | .declaration | .bracketedAsset | .capped => 2
  | .monetary | .operation => 3
  | .boundedOverdraft => 6
  | .colouredOverdraft => 7

theorem Layout.lt_reach_of_field? {l : Layout} {place : Nat} {f : Field}
    (h : l.field? place = some f) : place < l.reach := by
  unfold field? at h
  split at h <;> first | decide | cases h

theorem Layout.lt_reach_of_alias? {l : Layout} {place : Nat} {a : Alias}
    (h : l.alias? place = some a) : place < l.reach := by
  unfold alias? at h
  split at h <;> first | decide | cases h

/-- What a child shows in its place, with its role. -/
def Layout.item (l : Layout) (place : Nat) (x : Symbol) : Grammar.Item :=
  ⟨((l.alias? place).map .alias).getD x, l.field? place⟩

/-- What children show from a place on. -/
def Layout.itemsFrom (l : Layout) : (place : Nat) → List Symbol → List Grammar.Item
  | _, [] => []
  | place, x :: rest => l.item place x :: l.itemsFrom (place + 1) rest

/-- What the children of a phrase show, in order. -/
def Layout.items (l : Layout) (children : List Symbol) : List Grammar.Item := l.itemsFrom 0 children

namespace Automaton

open Grammar (Item productions unaliased)

/-- A reduction, and the number of its children that have been read. -/
structure Goal where
  reduction : Reduction
  read : Nat
  deriving DecidableEq

/-- The goals with children still to come, by the core of the state that has them. -/
def unfinishedGoals : (core : Nat) → List Goal
  | 2 =>
    [⟨⟨.srcAllotment, 3, .plain⟩, 1⟩, ⟨⟨.srcInorder, 2, .plain⟩, 1⟩, ⟨⟨.srcInorder, 3, .plain⟩, 1⟩]
  | 5 => [⟨⟨.srcInorder, 3, .plain⟩, 2⟩, ⟨⟨.sources, 2, .plain⟩, 1⟩]
  | 8 => [⟨⟨.srcOneof, 4, .plain⟩, 2⟩]
  | 11 => [⟨⟨.srcOneof, 4, .plain⟩, 3⟩, ⟨⟨.sources, 2, .plain⟩, 1⟩]
  | 14 => [⟨⟨.sendStatement, 10, .plain⟩, 5⟩]
  | 15 => [⟨⟨.allotmentClauseSrc, 3, .plain⟩, 2⟩]
  | 16 => [⟨⟨.srcCapped, 4, .capped⟩, 3⟩]
  | 19 =>
    [⟨⟨.destAllotment, 3, .plain⟩, 1⟩, ⟨⟨.destInorder, 4, .plain⟩, 1⟩,
     ⟨⟨.destInorder, 5, .plain⟩, 1⟩]
  | 21 => [⟨⟨.sendStatement, 10, .plain⟩, 8⟩]
  | 22 => [⟨⟨.destinationTo, 2, .plain⟩, 1⟩]
  | 25 => [⟨⟨.srcAllotment, 3, .plain⟩, 2⟩, ⟨⟨.srcClauses, 2, .plain⟩, 1⟩]
  | 28 => [⟨⟨.destAllotment, 3, .plain⟩, 2⟩, ⟨⟨.destClauses, 2, .plain⟩, 1⟩]
  | 30 =>
    [⟨⟨.sentAllLit, 4, .bracketedAsset⟩, 2⟩, ⟨⟨.monetaryLiteral, 4, .monetary⟩, 2⟩,
     ⟨⟨.infixExpr, 3, .operation⟩, 1⟩]
  | 31 => [⟨⟨.monetaryLiteral, 4, .monetary⟩, 2⟩, ⟨⟨.infixExpr, 3, .operation⟩, 1⟩]
  | 40 => [⟨⟨.sendStatement, 10, .plain⟩, 1⟩]
  | 41 => [⟨⟨.saveStatement, 4, .plain⟩, 1⟩]
  | 42 | 51 => [⟨⟨.functionCall, 3, .call⟩, 2⟩, ⟨⟨.functionCall, 4, .call⟩, 2⟩]
  | 60 => [⟨⟨.sentAllLit, 4, .bracketedAsset⟩, 1⟩, ⟨⟨.monetaryLiteral, 4, .monetary⟩, 1⟩]
  | 61 => [⟨⟨.parenthesizedExpr, 3, .plain⟩, 1⟩]
  | 70 | 80 | 90 => [⟨⟨.infixExpr, 3, .operation⟩, 2⟩]
  | 100 => [⟨⟨.monetaryLiteral, 4, .monetary⟩, 1⟩]
  | 109 => [⟨⟨.accountLiteral, 3, .plain⟩, 2⟩]
  | 110 => [⟨⟨.saveStatement, 4, .plain⟩, 3⟩]
  | 111 => [⟨⟨.moreArgs, 2, .plain⟩, 1⟩]
  | 112 => [⟨⟨.varOrigin, 2, .plain⟩, 1⟩]
  | 113 => [⟨⟨.moreArgs, 3, .plain⟩, 2⟩]
  | 114 => [⟨⟨.srcCapped, 4, .capped⟩, 1⟩]
  | 117 => [⟨⟨.colorConstraint, 2, .plain⟩, 1⟩]
  | 120 => [⟨⟨.destinationInOrderClause, 3, .plain⟩, 1⟩]
  | 121 => [⟨⟨.srcAccountBoundedOverdraft, 6, .boundedOverdraft⟩, 5⟩]
  | 124 => [⟨⟨.srcAccountBoundedOverdraft, 7, .colouredOverdraft⟩, 6⟩]
  | 130 => [⟨⟨.accountParts, 3, .plain⟩, 1⟩]
  | 133 | 163 =>
    [⟨⟨.infixExpr, 3, .operation⟩, 1⟩, ⟨⟨.srcAccountUnboundedOverdraft, 4, .unboundedOverdraft⟩, 1⟩,
     ⟨⟨.srcAccountUnboundedOverdraft, 5, .unboundedOverdraft⟩, 1⟩,
     ⟨⟨.srcAccountBoundedOverdraft, 6, .boundedOverdraft⟩, 1⟩,
     ⟨⟨.srcAccountBoundedOverdraft, 7, .colouredOverdraft⟩, 1⟩, ⟨⟨.srcAccount, 2, .plain⟩, 1⟩]
  | 154 | 155 | 156 | 204 | 261 | 262 | 319 | 439 | 450 | 484 | 485 | 486 | 492 =>
    [⟨⟨.infixExpr, 3, .operation⟩, 1⟩]
  | 318 =>
    [⟨⟨.srcAccountUnboundedOverdraft, 5, .unboundedOverdraft⟩, 2⟩,
     ⟨⟨.srcAccountBoundedOverdraft, 7, .colouredOverdraft⟩, 2⟩]
  | 400 => [⟨⟨.program, 2, .plain⟩, 1⟩]
  | 408 | 409 => [⟨⟨.statements, 2, .plain⟩, 1⟩]
  | 443 => [⟨⟨.infixExpr, 3, .operation⟩, 1⟩, ⟨⟨.destinationInOrderClause, 3, .plain⟩, 2⟩]
  | 446 => [⟨⟨.infixExpr, 3, .operation⟩, 1⟩, ⟨⟨.functionCallArgs, 2, .plain⟩, 1⟩]
  | 491 => [⟨⟨.varsDeclaration, 3, .plain⟩, 2⟩, ⟨⟨.varsDeclaration, 4, .plain⟩, 2⟩]
  | 494 => [⟨⟨.infixExpr, 3, .operation⟩, 1⟩, ⟨⟨.parenthesizedExpr, 3, .plain⟩, 2⟩]
  | 503 => [⟨⟨.varDeclaration, 3, .declaration⟩, 2⟩]
  | 504 => [⟨⟨.monetaryLiteral, 4, .monetary⟩, 3⟩, ⟨⟨.infixExpr, 3, .operation⟩, 1⟩]
  | 513 => [⟨⟨.infixExpr, 3, .operation⟩, 1⟩, ⟨⟨.srcCapped, 4, .capped⟩, 2⟩]
  | 516 => [⟨⟨.destInorder, 4, .plain⟩, 2⟩]
  | 518 => [⟨⟨.allotmentClauseDest, 2, .plain⟩, 1⟩]
  | 519 => [⟨⟨.destOneof, 5, .plain⟩, 2⟩, ⟨⟨.destOneof, 6, .plain⟩, 2⟩]
  | 521 => [⟨⟨.destInorder, 5, .plain⟩, 3⟩]
  | 523 => [⟨⟨.destOneof, 5, .plain⟩, 3⟩]
  | 526 => [⟨⟨.destOneof, 6, .plain⟩, 4⟩]
  | 529 => [⟨⟨.accountLiteral, 2, .plain⟩, 1⟩, ⟨⟨.accountLiteral, 3, .plain⟩, 1⟩]
  | 538 => [⟨⟨.varsDeclaration, 4, .plain⟩, 3⟩, ⟨⟨.varDeclarations, 2, .plain⟩, 1⟩]
  | 539 => [⟨⟨.accountParts, 2, .plain⟩, 1⟩]
  | 548 => [⟨⟨.accountParts, 3, .plain⟩, 2⟩]
  | 560 => [⟨⟨.destInorder, 5, .plain⟩, 2⟩, ⟨⟨.inOrderClauses, 2, .plain⟩, 1⟩]
  | 562 => [⟨⟨.destOneof, 6, .plain⟩, 3⟩, ⟨⟨.inOrderClauses, 2, .plain⟩, 1⟩]
  | 567 => [⟨⟨.moreArgs, 3, .plain⟩, 1⟩]
  | 571 =>
    [⟨⟨.srcAccountUnboundedOverdraft, 4, .unboundedOverdraft⟩, 2⟩,
     ⟨⟨.srcAccountBoundedOverdraft, 6, .boundedOverdraft⟩, 2⟩]
  | 574 =>
    [⟨⟨.srcAccountUnboundedOverdraft, 5, .unboundedOverdraft⟩, 3⟩,
     ⟨⟨.srcAccountBoundedOverdraft, 7, .colouredOverdraft⟩, 3⟩]
  | 592 => [⟨⟨.varsDeclaration, 3, .plain⟩, 1⟩, ⟨⟨.varsDeclaration, 4, .plain⟩, 1⟩]
  | 593 | 602 => [⟨⟨.functionCall, 3, .call⟩, 1⟩, ⟨⟨.functionCall, 4, .call⟩, 1⟩]
  | 612 => [⟨⟨.sendStatement, 10, .plain⟩, 2⟩]
  | 613 => [⟨⟨.saveStatement, 4, .plain⟩, 2⟩]
  | 614 => [⟨⟨.varDeclaration, 2, .declaration⟩, 1⟩, ⟨⟨.varDeclaration, 3, .declaration⟩, 1⟩]
  | 615 => [⟨⟨.sendStatement, 10, .plain⟩, 3⟩]
  | 616 | 625 => [⟨⟨.functionCall, 4, .call⟩, 3⟩]
  | 634 => [⟨⟨.sendStatement, 10, .plain⟩, 4⟩]
  | 635 => [⟨⟨.sentAllLit, 4, .bracketedAsset⟩, 3⟩]
  | 636 => [⟨⟨.sendStatement, 10, .plain⟩, 6⟩]
  | 644 => [⟨⟨.srcOneof, 4, .plain⟩, 1⟩]
  | 647 => [⟨⟨.sendStatement, 10, .plain⟩, 7⟩]
  | 649 => [⟨⟨.allotmentClauseSrc, 3, .plain⟩, 1⟩]
  | 650 => [⟨⟨.srcAccountUnboundedOverdraft, 4, .unboundedOverdraft⟩, 3⟩]
  | 653 => [⟨⟨.srcAccountBoundedOverdraft, 6, .boundedOverdraft⟩, 3⟩]
  | 658 => [⟨⟨.sendStatement, 10, .plain⟩, 9⟩]
  | 659 => [⟨⟨.destOneof, 5, .plain⟩, 1⟩, ⟨⟨.destOneof, 6, .plain⟩, 1⟩]
  | 661 => [⟨⟨.srcAccountUnboundedOverdraft, 5, .unboundedOverdraft⟩, 4⟩]
  | 664 => [⟨⟨.srcAccountBoundedOverdraft, 7, .colouredOverdraft⟩, 4⟩]
  | 668 => [⟨⟨.srcAccountBoundedOverdraft, 6, .boundedOverdraft⟩, 4⟩]
  | 674 => [⟨⟨.srcAccountBoundedOverdraft, 7, .colouredOverdraft⟩, 5⟩]
  | 677 => [⟨⟨.destInorder, 4, .plain⟩, 3⟩]
  | 679 => [⟨⟨.destInorder, 5, .plain⟩, 4⟩]
  | 681 => [⟨⟨.destOneof, 5, .plain⟩, 4⟩]
  | 683 => [⟨⟨.destOneof, 6, .plain⟩, 5⟩]
  | _ => []

/-- What a state is in the midst of. -/
def State.goals (s : State) : List Goal :=
  s.reductions.map (fun r => ⟨r.1, r.1.arity⟩) ++ unfinishedGoals s.core

/-- Where a symbol leads from a state. -/
def State.leads? (s : State) : Symbol → Option Nat
  | .terminal t => s.shift? t
  | .nonterminal n => s.goto? n
  | .alias _ | .error => none

/-- Where a symbol leads from the state with a number. -/
def leads? (q : Nat) (x : Symbol) : Option Nat := (state? q).bind (·.leads? x)

/-- The edges out of a state. -/
def State.edges (s : State) : List (Symbol × Nat) :=
  s.shifts.map (fun e => (.terminal e.1, e.2)) ++ s.gotos.map (fun e => (.nonterminal e.1, e.2))

namespace Reduction

/-- The children that a production asks for. -/
def children (p : List Item) : List Symbol := p.map fun i => unaliased i.symbol

/-- The words of children that the reduction can complete. -/
def words (r : Reduction) : List (List Symbol) :=
  ((productions r.phrase).filter fun p =>
    p.length = r.arity && r.layout.items (children p) = p).map children

/-- The symbols that can stand in a place among the children. -/
def column (r : Reduction) (place : Nat) : List Symbol := r.words.filterMap (·[place]?)

/-- The symbols of every place. -/
def columns (r : Reduction) : List (List Symbol) := (List.range r.arity).map r.column

theorem range_map_column {r : Reduction} {n : Nat} (h : n ≤ r.arity) :
    (List.range n).map r.column = r.columns.take n := by
  rw [columns, ← List.map_take, List.take_range, Nat.min_eq_left h]

end Reduction

/-- Whether an edge reads the last child of every goal behind it. -/
def State.advances (s : State) (x : Symbol) (next : State) : Bool :=
  next.goals.all fun g =>
    match g.read with
    | 0 => false
    | place + 1 => (g.reduction.column place).contains x &&
      if place = 0 then (s.goto? g.reduction.phrase).isSome
      else s.goals.contains ⟨g.reduction, place⟩

/-- Whether all edges out of a state keep its goals. -/
def State.keepsGoals (s : State) : Bool :=
  s.edges.all fun e =>
    match state? e.2 with
    | some next => s.advances e.1 next
    | none => false

/-- Whether any children of the right kinds make up a production. -/
def Reduction.spellsProductions (r : Reduction) : Bool :=
  r.columns.sections.all fun w =>
    (productions r.phrase).contains (r.layout.items w) && children (r.layout.items w) = w

/-- Whether the reductions of a state spell productions, and give roles to children they have. -/
def State.reducesWell (s : State) : Bool :=
  s.reductions.all fun r => r.1.spellsProductions && r.1.layout.reach ≤ r.1.arity &&
    (r.1.arity != 0 || (s.goto? r.1.phrase).isSome)

theorem keepsGoals_of_mem : ∀ page ∈ pages, ∀ s ∈ page, s.keepsGoals = true := by
  decide +kernel

theorem reducesWell_of_mem : ∀ page ∈ pages, ∀ s ∈ page, s.reducesWell = true := by
  decide +kernel

/-- Nothing enters the state of recovery and the one before the first token. The last one is entered by a
program alone. -/
theorem ends_of_mem : ∀ page ∈ pages, ∀ s ∈ page, ∀ e ∈ s.edges,
    (e.2 == recovery) = false ∧ (e.2 == start) = false ∧
      (e.2 == final && e.1 != .nonterminal .program) = false := by
  decide +kernel

theorem endOfText_of_mem : ∀ page ∈ pages, ∀ s ∈ page, s.shift? .endOfText = none := by
  decide +kernel

theorem goto_program : ∀ q < stateCount, goto? q .program = none ∨ q = start := by
  decide +kernel

/-- Behind a value and a slash the operation lacks its right operand. -/
example : (state? 90).map (·.goals) = some [⟨⟨.infixExpr, 3, .operation⟩, 2⟩] := by decide +kernel

theorem mem_pages_of_state? {q : Nat} {s : State} (h : state? q = some s) :
    ∃ page ∈ pages, s ∈ page := by
  obtain ⟨page, hp, hs⟩ := Option.bind_eq_some_iff.1 h
  exact ⟨page, List.mem_of_getElem? hp, List.mem_of_getElem? hs⟩

theorem lt_stateCount_of_state? {q : Nat} {s : State} (h : state? q = some s) :
    q < stateCount := by
  obtain ⟨page, hp, hs⟩ := Option.bind_eq_some_iff.1 h
  have hpage := (List.getElem?_eq_some_iff.1 hp).1
  have hplace := (List.getElem?_eq_some_iff.1 hs).1
  have hlast : pages[10]? = some page10 := rfl
  have hlength : page10.length = 45 := rfl
  have hcount : pages.length = 11 := rfl
  unfold stateCount
  by_cases hq : q / 64 = 10
  · rw [hq, hlast, Option.some.injEq] at hp
    rw [← hp] at hplace
    omega
  · omega

theorem mem_of_lookup {α β : Type} [BEq α] [LawfulBEq α] {entries : List (α × β)} {a : α} {b : β}
    (h : entries.lookup a = some b) : (a, b) ∈ entries := by
  induction entries with
  | nil => cases h
  | cons e entries ih =>
    rw [List.lookup_cons] at h
    split at h
    · next heq =>
      obtain rfl := eq_of_beq heq
      obtain rfl := Option.some.inj h
      exact List.mem_cons_self
    · exact List.mem_cons_of_mem _ (ih h)

theorem State.mem_edges {s : State} {x : Symbol} {q : Nat} (h : s.leads? x = some q) :
    (x, q) ∈ s.edges := by
  unfold leads? at h
  split at h
  · exact List.mem_append_left _ (List.mem_map.2 ⟨_, mem_of_lookup h, rfl⟩)
  · exact List.mem_append_right _ (List.mem_map.2 ⟨_, mem_of_lookup h, rfl⟩)
  · cases h
  · cases h

theorem leads?_advances {q next : Nat} {x : Symbol} (h : leads? q x = some next) :
    ∃ s s', state? q = some s ∧ state? next = some s' ∧ s.advances x s' = true := by
  obtain ⟨s, hs, hx⟩ := Option.bind_eq_some_iff.1 h
  obtain ⟨page, hpage, hmem⟩ := mem_pages_of_state? hs
  have hkeeps := List.all_eq_true.1 (keepsGoals_of_mem page hpage s hmem) _ (State.mem_edges hx)
  cases hs' : state? next with
  | none => simp [hs'] at hkeeps
  | some s' =>
    refine ⟨s, s', hs, rfl, ?_⟩
    simpa [hs'] using hkeeps

theorem leads?_ne_recovery {q next : Nat} {x : Symbol} (h : leads? q x = some next) :
    next ≠ recovery := by
  obtain ⟨s, hs, hx⟩ := Option.bind_eq_some_iff.1 h
  obtain ⟨page, hpage, hmem⟩ := mem_pages_of_state? hs
  have hends := (ends_of_mem page hpage s hmem _ (State.mem_edges hx)).1
  simpa using hends

theorem leads?_ne_start {q next : Nat} {x : Symbol} (h : leads? q x = some next) :
    next ≠ start := by
  obtain ⟨s, hs, hx⟩ := Option.bind_eq_some_iff.1 h
  obtain ⟨page, hpage, hmem⟩ := mem_pages_of_state? hs
  have hends := (ends_of_mem page hpage s hmem _ (State.mem_edges hx)).2.1
  simpa using hends

theorem leads?_final {q : Nat} {x : Symbol} (h : leads? q x = some final) :
    q = start ∧ x = .nonterminal .program := by
  obtain ⟨s, hs, hx⟩ := Option.bind_eq_some_iff.1 h
  obtain ⟨page, hpage, hmem⟩ := mem_pages_of_state? hs
  have hends := (ends_of_mem page hpage s hmem _ (State.mem_edges hx)).2.2
  have hprogram : x = .nonterminal .program := by simpa using hends
  subst hprogram
  refine ⟨?_, rfl⟩
  rcases goto_program q (lt_stateCount_of_state? hs) with hnone | hstart
  · rw [goto?, hs] at hnone
    rw [State.leads?] at hx
    simp [hx] at hnone
  · exact hstart

/-- What the state with a number is in the midst of. -/
def goals (q : Nat) : List Goal := ((state? q).map (·.goals)).getD []

/--
Behind an edge every goal has read the symbol on it as its last child. Before the edge the goal
lacked that child, or the complete phrase leads on.
-/
theorem goal_before {q next : Nat} {x : Symbol} {g : Goal} (h : leads? q x = some next)
    (hg : g ∈ goals next) : ∃ place, g.read = place + 1 ∧ x ∈ g.reduction.column place ∧
      (place = 0 → ∃ behind, goto? q g.reduction.phrase = some behind) ∧
      (place ≠ 0 → ⟨g.reduction, place⟩ ∈ goals q) := by
  obtain ⟨s, s', hs, hs', hall⟩ := leads?_advances h
  have hgoals : g ∈ s'.goals := by simpa [goals, hs'] using hg
  have hadv := List.all_eq_true.1 hall g hgoals
  cases hread : g.read with
  | zero => simp [hread] at hadv
  | succ place =>
    simp only [hread, Bool.and_eq_true, List.contains_iff_mem] at hadv
    refine ⟨place, rfl, hadv.1, ?_, ?_⟩
    · intro hfirst
      have hgoto := hadv.2
      rw [if_pos hfirst] at hgoto
      obtain ⟨behind, hbehind⟩ := Option.isSome_iff_exists.1 hgoto
      exact ⟨behind, by simpa [goto?, hs] using hbehind⟩
    · intro hlater
      have hmem := hadv.2
      rw [if_neg hlater, List.contains_iff_mem] at hmem
      simpa [goals, hs] using hmem

/-- A goal that has read several children was a goal below the last one of them. -/
theorem goal_below {q next count : Nat} {x : Symbol} {r : Reduction} (h : leads? q x = some next)
    (hg : ⟨r, count + 2⟩ ∈ goals next) : ⟨r, count + 1⟩ ∈ goals q := by
  obtain ⟨place, hread, _, _, hlater⟩ := goal_before h hg
  obtain rfl : count + 1 = place := Nat.succ.inj hread
  exact hlater (Nat.succ_ne_zero count)

/-- What a state reduces before a token. -/
def reduction? (q : Nat) (t : Terminal) : Option Reduction := (state? q).bind (·.reduction? t)

theorem State.mem_reductions {s : State} {t : Terminal} {r : Reduction}
    (h : s.reduction? t = some r) : ∃ before, (r, before) ∈ s.reductions ∧ t ∈ before := by
  obtain ⟨⟨r', before⟩, hfind, rfl⟩ := Option.map_eq_some_iff.1 h
  refine ⟨before, List.mem_of_find?_eq_some hfind, ?_⟩
  simpa using List.find?_some hfind

theorem goal_of_reduction {q : Nat} {t : Terminal} {r : Reduction} (h : reduction? q t = some r) :
    ⟨r, r.arity⟩ ∈ goals q := by
  obtain ⟨s, hs, hr⟩ := Option.bind_eq_some_iff.1 h
  obtain ⟨before, hmem, _⟩ := State.mem_reductions hr
  simp only [goals, hs, Option.map_some, Option.getD_some, State.goals]
  exact List.mem_append_left _ (List.mem_map.2 ⟨_, hmem, rfl⟩)

theorem reducesWell_of_reduction {q : Nat} {t : Terminal} {r : Reduction}
    (h : reduction? q t = some r) : r.spellsProductions = true ∧ r.layout.reach ≤ r.arity ∧
      (r.arity = 0 → ∃ behind, goto? q r.phrase = some behind) := by
  obtain ⟨s, hs, hr⟩ := Option.bind_eq_some_iff.1 h
  obtain ⟨page, hpage, hin⟩ := mem_pages_of_state? hs
  obtain ⟨before, hmem, _⟩ := State.mem_reductions hr
  have hwell := List.all_eq_true.1 (reducesWell_of_mem page hpage s hin) _ hmem
  simp only [Bool.and_eq_true, decide_eq_true_eq, Bool.or_eq_true, bne_iff_ne] at hwell
  obtain ⟨⟨hspells, hreach⟩, hgoto⟩ := hwell
  refine ⟨hspells, hreach, fun hnone => ?_⟩
  obtain ⟨behind, hbehind⟩ := Option.isSome_iff_exists.1 (hgoto.resolve_left (not_not.2 hnone))
  exact ⟨behind, by simpa [goto?, hs] using hbehind⟩

/-- Children that can stand in their places make up a production of the phrase. -/
theorem Reduction.items_mem_of_spells {r : Reduction} (h : r.spellsProductions = true)
    {w : List Symbol} (hw : List.Forall₂ (· ∈ ·) w r.columns) :
    r.layout.items w ∈ productions r.phrase ∧ Reduction.children (r.layout.items w) = w := by
  simpa using List.all_eq_true.1 h w (List.mem_sections.2 hw)

theorem items_mem_productions {q : Nat} {t : Terminal} {r : Reduction} {w : List Symbol}
    (h : reduction? q t = some r) (hw : List.Forall₂ (· ∈ ·) w r.columns) :
    r.layout.items w ∈ productions r.phrase ∧ Reduction.children (r.layout.items w) = w :=
  Reduction.items_mem_of_spells (reducesWell_of_reduction h).1 hw

theorem lt_arity_of_field? {q place : Nat} {t : Terminal} {r : Reduction} {f : Field}
    (h : reduction? q t = some r) (hf : r.layout.field? place = some f) : place < r.arity :=
  Nat.lt_of_lt_of_le (Layout.lt_reach_of_field? hf) (reducesWell_of_reduction h).2.1

theorem lt_arity_of_alias? {q place : Nat} {t : Terminal} {r : Reduction} {a : Alias}
    (h : reduction? q t = some r) (ha : r.layout.alias? place = some a) : place < r.arity :=
  Nat.lt_of_lt_of_le (Layout.lt_reach_of_alias? ha) (reducesWell_of_reduction h).2.1

theorem action?_recovery {t : Terminal} (hc : t.isComment = false) :
    action? recovery t = some .recover := by
  rw [action?, if_neg (by simp [hc]), if_pos rfl]

/-- What a state does with a token that is no comment and does not end the program. -/
theorem action?_of_plain {q : Nat} {t : Terminal} (hq : q ≠ recovery) (hc : t.isComment = false)
    (he : ¬(q = final ∧ t = .endOfText)) :
    action? q t = match leads? q (.terminal t), reduction? q t with
      | some next, some r => some (.both next r)
      | some next, none => some (.shift next)
      | none, some r => some (.reduce r)
      | none, none => none := by
  have hend : ¬(q = final && t = .endOfText) = true := by simpa using he
  rw [action?, if_neg (by simp [hc]), if_neg hq, if_neg hend]
  cases hs : state? q with
  | none => simp [leads?, reduction?, hs]
  | some s =>
    have hleads : leads? q (.terminal t) = s.shift? t := by simp [leads?, hs, State.leads?]
    have hreduction : reduction? q t = s.reduction? t := by simp [reduction?, hs]
    rw [hleads, hreduction]
    rfl

theorem leads?_endOfText (q : Nat) : leads? q (.terminal .endOfText) = none := by
  cases hs : state? q with
  | none => simp [leads?, hs]
  | some s =>
    obtain ⟨page, hpage, hmem⟩ := mem_pages_of_state? hs
    simpa [leads?, hs, State.leads?] using endOfText_of_mem page hpage s hmem

theorem action?_ne_recover {q : Nat} {t : Terminal} (hq : q ≠ recovery) :
    action? q t ≠ some .recover := by
  intro h
  by_cases hc : t.isComment = true
  · rw [action?, if_pos hc] at h
    cases h
  by_cases he : q = final ∧ t = .endOfText
  · rw [action?, if_neg hc, if_neg hq, if_pos (by simpa using he)] at h
    cases h
  · rw [action?_of_plain hq (by simpa using hc) he] at h
    split at h <;> cases h

theorem action?_final : action? final .endOfText = some .accept := rfl

theorem eq_final_of_accept {q : Nat} {t : Terminal} (h : action? q t = some .accept) :
    q = final ∧ t = .endOfText := by
  by_cases hc : t.isComment = true
  · rw [action?, if_pos hc] at h
    cases h
  have hplain : t.isComment = false := by simpa using hc
  by_cases hq : q = recovery
  · rw [hq, action?_recovery hplain] at h
    cases h
  · by_contra he
    rw [action?_of_plain hq hplain he] at h
    split at h <;> cases h

/-- A state reduces before a token, alone or beside a push. -/
def Asks (q : Nat) (t : Terminal) (r : Reduction) : Prop :=
  action? q t = some (.reduce r) ∨ ∃ next, action? q t = some (.both next r)

theorem reduction?_of_asks {q : Nat} {t : Terminal} {r : Reduction} (h : Asks q t r) :
    reduction? q t = some r := by
  have hc : t.isComment = false := by
    by_contra hc
    simp only [Bool.not_eq_false] at hc
    simp [Asks, action?, hc] at h
  have hq : q ≠ recovery := by
    rintro rfl
    simp [Asks, action?_recovery hc] at h
  have he : ¬(q = final ∧ t = .endOfText) := by
    rintro ⟨rfl, rfl⟩
    simp [Asks, action?, hc, hq] at h
  rw [Asks, action?_of_plain hq hc he] at h
  cases hl : leads? q (.terminal t) <;> cases hr : reduction? q t <;> simp_all

end Automaton
end Numscript
