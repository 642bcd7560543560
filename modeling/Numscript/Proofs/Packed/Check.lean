import Numscript.Packed.Table
import Numscript.Proofs.Bits
import Numscript.Proofs.Packed.Row

/-!
# The rows hold the states

The rows of the packed table are compared with the states section by section. Symbols that a row does not
hold are not acted on, which the bits of all symbols of the row and of the state decide.
-/
namespace Numscript.Packed

open Automaton (State action? goto? state? final)

/-- Whether a value is right for a symbol of a state. -/
def agreesAt (q value i : Nat) : Bool :=
  match Symbol.ofIndex? i with
  | some (.terminal t) => actions? value = some (actionsOf (action? q t))
  | some (.nonterminal n) => goto? q n = some value
  | _ => false

/-- The numbers of the symbols that a state other than the first one has a value for. -/
def symbolsOf (q : Nat) (s : State) : List Nat :=
  [1, 2] ++ (if q = final then [0] else []) ++ s.shifts.map (·.1.index) ++
    s.reductions.flatMap (·.2.map (·.index)) ++ s.gotos.map (·.1.index)

/-- Whether a row holds a state: the right values, for all symbols that the state has a value for. -/
def agrees (q : Nat) : List Nat → Bool
  | [] => false
  | n :: rest =>
    match sections? n rest, state? q with
    | some parts, some s =>
      parts.all (fun part => part.2.all fun i => agreesAt q part.1 i) &&
        bits (parts.flatMap (·.2)) == bits (symbolsOf q s)
    | _, _ => false

theorem agrees_rows : (rows.zipIdx 2).all (fun r => agrees r.2 r.1) = true := by
  decide +kernel

theorem offsets_eq_starts : offsets = starts 0 rows := by
  decide +kernel

/-- The first two states have a value for each symbol. -/
theorem agrees_large : ∀ q < 2,
    (∀ t ∈ Terminal.all, (value? q t.index).bind actions? = some (actionsOf (action? q t))) ∧
    ∀ n ∈ Nonterminal.all, value? q n.index = some ((goto? q n).getD 0) := by
  decide +kernel

end Numscript.Packed
