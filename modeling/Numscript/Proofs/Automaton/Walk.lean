import Numscript.Proofs.Automaton.Goal

/-!
# Walks

Where a word of symbols leads from a state of the parsing automaton. The children of a phrase that is
complete on a stack are a walk from the state below them to the one on top.
-/
namespace Numscript.Automaton

open Grammar (productions)

/-- Where a word of symbols leads. -/
def walk (q : Nat) : List Symbol → Option Nat
  | [] => some q
  | x :: w => (leads? q x).bind fun next => walk next w

theorem walk_append (q : Nat) (v w : List Symbol) :
    walk q (v ++ w) = (walk q v).bind fun next => walk next w := by
  induction v generalizing q with
  | nil => rfl
  | cons x v ih =>
    rw [List.cons_append, walk, walk]
    cases leads? q x with
    | none => rfl
    | some next => exact ih next

theorem walk_snoc {q r : Nat} {w : List Symbol} {x : Symbol} (h : walk q w = some r) :
    walk q (w ++ [x]) = leads? r x := by
  rw [walk_append, h, Option.bind_some, walk]
  cases leads? r x <;> rfl

/-- A check of every way to read a phrase: the state before it, the state behind it, and the state in
which its last child has been read. -/
def everyReading (check : (n : Nonterminal) → (behind last : Nat) → Bool) : Bool :=
  (List.range stateCount).all fun q =>
    match state? q with
    | none => true
    | some s => s.gotos.all fun e => (productions e.1).all fun p =>
      match walk q (Reduction.children p) with
      | none => true
      | some last => check e.1 e.2 last

theorem of_everyReading {check : Nonterminal → Nat → Nat → Bool} (h : everyReading check = true)
    {q last behind : Nat} {n : Nonterminal} {p : List Grammar.Item} (hp : p ∈ productions n)
    (hw : walk q (Reduction.children p) = some last) (hq : goto? q n = some behind) :
    check n behind last = true := by
  obtain ⟨s, hs, hgoto⟩ := Option.bind_eq_some_iff.1 hq
  have hall := List.all_eq_true.1 h q (List.mem_range.2 (lt_stateCount_of_state? hs))
  simp only [hs] at hall
  have hchildren := List.all_eq_true.1 (List.all_eq_true.1 hall _ (mem_of_lookup hgoto)) p hp
  simpa [hw] using hchildren

end Numscript.Automaton
