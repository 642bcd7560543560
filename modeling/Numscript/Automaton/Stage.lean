import Numscript.Automaton.Table
import Numscript.Symbol.Symbol

/-!
# Stages of phrases

A phrase is read state by state. A stage is a state at which a number of children of a phrase have
been read. The last stages are the states that reduce the phrase; the ones before them are found by
going back along the automaton, one child at a time. Nothing is checked but the number of children,
so a stage may lie on a way that no text takes.
-/
namespace Numscript.Automaton

/-- A way out of a state. -/
structure Exit where
  /-- What is read. -/
  symbol : Symbol
  /-- The state it leads to. -/
  next : Nat
  /-- Whether it is a child that counts; a comment is none. -/
  counts : Bool
  deriving DecidableEq, Repr

/-- The ways out of a state. -/
def exits (q : Nat) : List Exit :=
  match state? q with
  | none => []
  | some s =>
    s.shifts.map (fun e => ⟨.terminal e.1, e.2, true⟩) ++
      s.gotos.map (fun e => ⟨.nonterminal e.1, e.2, true⟩) ++
      [⟨.terminal .lineComment, q, false⟩, ⟨.terminal .multilineComment, q, false⟩]

/-- For every state, the states that lead to it by something that counts. -/
def predecessorTable : Array (List Nat) :=
  (List.range stateCount).foldr
    (fun q table => ((exits q).filter (·.counts)).foldl
      (fun table e => table.modify e.next (q :: ·)) table)
    (Array.replicate stateCount [])

/-- The states that lead to one of several states by something that counts. -/
def predecessors (states : List Nat) : List Nat :=
  (states.flatMap fun q => predecessorTable[q]?.getD []).eraseDups

/-- A state at which some children of a phrase have been read. -/
structure Stage where
  state : Nat
  /-- The number of children that have been read. -/
  filled : Nat
  /-- Whether these are all children, so that the phrase is reduced. -/
  isComplete : Bool
  /-- The roles of the children. -/
  layout : Layout
  deriving DecidableEq, Repr

/-- The stages at which a phrase is complete. -/
def completions (phrase : Nonterminal) : List Stage :=
  (List.range stateCount).filterMap fun q => do
    let s ← state? q
    let r ← (s.reductions.map (·.1)).find? (·.phrase = phrase)
    some ⟨q, r.arity, true, r.layout⟩

/-- The stages down to the first child, from states at which a number of children have been read. -/
def stagesDown (layout : Layout) : (filled : Nat) → (states : List Nat) → List Stage
  | 0, _ => []
  | filled + 1, states =>
    states.map (⟨·, filled + 1, false, layout⟩) ++ stagesDown layout filled (predecessors states)

/-- The stages of a phrase. -/
def stages (phrase : Nonterminal) : List Stage :=
  let last := completions phrase
  last ++ (last.flatMap fun s =>
    stagesDown s.layout (s.filled - 1) (predecessors [s.state])).eraseDups

/-- The states that a phrase can start at, one for each core. -/
def origins (phrase : Nonterminal) : List Nat :=
  (List.range stateCount).filter fun q =>
    (state? q).any fun s => s.core = q && (s.goto? phrase).isSome

end Numscript.Automaton
