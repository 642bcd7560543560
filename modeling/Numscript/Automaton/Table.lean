import Numscript.Automaton.Pages

/-!
# The parsing automaton

`action?` says what a state does with a token. Comments are no part of the grammar: every state
pushes them and stays what it is. State zero is no place in a program: it takes any other token as
one to recover from.
-/
namespace Numscript.Automaton

/-- The states in pages of sixty-four. -/
def pages : List (List State) :=
  [page0, page1, page2, page3, page4, page5, page6, page7, page8, page9, page10]

/-- The number of states. -/
def stateCount : Nat := 685

/-- The state that stands for recovery: it has an entry for every token, and none leads on. -/
def recovery : Nat := 0

/-- The state before the first token. -/
def start : Nat := 1

/-- The state behind a complete program, which only the end of the text may follow. -/
def final : Nat := 611

/-- The state with a number. -/
def state? (q : Nat) : Option State := (pages[q / 64]?).bind (·[q % 64]?)

/-- What a state does with a token. -/
inductive Action where
  /-- Push the token and go to a state. -/
  | shift (next : Nat)
  /-- Push the token, a comment, and stay. -/
  | pass
  /-- Reduce the phrase that ends before the token. -/
  | reduce (r : Reduction)
  /-- Follow both a push and a reduction. -/
  | both (next : Nat) (r : Reduction)
  /-- The program is complete. -/
  | accept
  /-- Look for a place where the text goes on. -/
  | recover
  deriving DecidableEq, Repr

/-- What state `q` does with a token; nothing if the token cannot follow. -/
def action? (q : Nat) (t : Terminal) : Option Action :=
  if t.isComment then some .pass
  else if q = recovery then some .recover
  else if q = final && t = .endOfText then some .accept
  else do
    let s ← state? q
    match s.shift? t, s.reduction? t with
    | some next, some r => some (.both next r)
    | some next, none => some (.shift next)
    | none, some r => some (.reduce r)
    | none, none => none

/-- Where a complete phrase leads from state `q`. -/
def goto? (q : Nat) (n : Nonterminal) : Option Nat := do (← state? q).goto? n

/-- The lexer state that reads the token after state `q`. -/
def mode? (q : Nat) : Option Nat := (state? q).map (·.mode)

/-- Where an action leads from state `q` in one step, zero if it pushes nothing. -/
def Action.successor (q : Nat) : Action → Nat
  | .shift next | .both next _ => next
  | .pass => q
  | .reduce _ | .accept | .recover => 0

/-- Where a token leads from state `q` in one step. -/
def successor? (q : Nat) (t : Terminal) : Option Nat := (action? q t).map (Action.successor q)

/-- The entries of a state: the symbols that may follow it by number, and where they lead. -/
def entries (q : Nat) : List (Nat × Nat) :=
  (Terminal.all.filterMap fun t => (successor? q t).map fun next => (t.index, next)) ++
  (Nonterminal.all.filterMap fun n => (goto? q n).map fun next => (n.index, next))

end Numscript.Automaton
