import Numscript.Automaton.Table
import Numscript.Packed.Actions
import Numscript.Packed.Rows
import Numscript.Symbol.Symbol

/-!
# The packed tables

The automaton as it is stored. The first two states have a value for every symbol. The others share
one table of numbers: a row is the number of its sections, and each section is a value, the number
of its symbols, and the symbols. The value of a phrase is the state it leads to, and the value of a
token the number of a slot in the table of actions. Zero stands for nothing.

The roles of children lie in tables by production: one slice of field entries, and one row of
aliases.

Every read answers nothing when it leaves its table. `actionsFor?` and `value?` are what the parser reads
for a token and for a phrase.
-/
namespace Numscript.Packed

open Automaton (Action Reduction)

/-- The rows of the shared table. -/
def rows : List (List Nat) := rows0 ++ rows1 ++ rows2 ++ rows3

/-- The table that all states but the first two share. -/
def small : List Nat := rows.flatten

/-- The values of all symbols in the first two states. -/
def large : List (List Nat) :=
  [[1, 3, 3] ++ List.replicate 37 1 ++ List.replicate 54 0,
   [5, 3, 3, 7, 0, 0, 0, 9, 0, 0, 0, 0, 11, 0, 0, 0, 0, 0, 0, 0, 0, 0, 13] ++ List.replicate 11 0 ++
     [15, 0, 0, 0, 0, 0, 611, 400, 0, 0, 455, 451, 452, 453] ++ List.replicate 14 0 ++ [454] ++
     List.replicate 23 0 ++ [408] ++ List.replicate 7 0]

/-- Looks for a symbol among the next `count` numbers: whether it is there, and what lies behind. -/
def among? (symbol : Nat) : (count : Nat) → List Nat → Option (Bool × List Nat)
  | 0, rest => some (false, rest)
  | _ + 1, [] => none
  | count + 1, s :: rest => if s = symbol then some (true, rest) else among? symbol count rest

/-- The value of a symbol in the next sections, zero if it is in none of them. -/
def lookup? (symbol : Nat) : (sections : Nat) → List Nat → Option Nat
  | 0, _ => some 0
  | sections + 1, value :: count :: rest =>
    match among? symbol count rest with
    | none => none
    | some (true, _) => some value
    | some (false, rest) => lookup? symbol sections rest
  | _ + 1, _ => none

/-- The value of a symbol in the row at the start of a list of numbers. -/
def rowValue? (symbol : Nat) : List Nat → Option Nat
  | [] => none
  | sections :: rest => lookup? symbol sections rest

/-- The value of a symbol in a state. -/
def value? (q symbol : Nat) : Option Nat :=
  if q < large.length then (large[q]?).bind (·[symbol]?)
  else (offsets[q - large.length]?).bind fun offset => rowValue? symbol (small.drop offset)

/-- The slot with a number. -/
def slot? (i : Nat) : Option Slot := (actionPages[i / 64]?).bind (·[i % 64]?)

/-- The next slots from a number on. -/
def slots? (i : Nat) : (count : Nat) → Option (List Slot)
  | 0 => some []
  | count + 1 => (slot? i).bind fun s => (slots? (i + 1) count).map (s :: ·)

/-- The actions of the entry at a number. -/
def actions? (i : Nat) : Option (List Slot) :=
  match slot? i with
  | some (.entry count _) => slots? (i + 1) count
  | _ => none

/-- The actions on a symbol in a state. Where no token could be read there is nothing to look up. -/
def actionsFor? (q symbol : Nat) : Option (List Slot) :=
  if symbol = Symbol.errorIndex then some [] else (value? q symbol).bind actions?

/-- The slot of a reduction. -/
def Slot.ofReduction (r : Reduction) : Slot :=
  .reduce r.phrase.index r.arity 0 r.layout.index

/-- The actions of the entry for what a state does. Of a reduction and a push the reduction is first. -/
def actionsOf : Option Action → List Slot
  | none => []
  | some (.shift next) => [.shift next]
  | some .pass => [.shiftExtra]
  | some (.reduce r) => [.ofReduction r]
  | some (.both next r) => [.ofReduction r, .shift next]
  | some .accept => [.accept]
  | some .recover => [.recover]

/-- The reduction that a slot stands for. -/
def Slot.reduction? : Slot → Option Reduction
  | .reduce symbol children _ production =>
    match Symbol.ofIndex? symbol, Layout.all[production]? with
    | some (.nonterminal phrase), some layout => some ⟨phrase, children, layout⟩
    | _, _ => none
  | _ => none

/-- What the actions of an entry come to. -/
def decode? : List Slot → Option (Option Action)
  | [] => some none
  | [.shift next] => some (some (.shift next))
  | [.shiftExtra] => some (some .pass)
  | [.accept] => some (some .accept)
  | [.recover] => some (some .recover)
  | [s] => s.reduction?.map fun r => some (.reduce r)
  | [s, .shift next] => s.reduction?.map fun r => some (.both next r)
  | _ => none

/-- Where the field entries of each production start, and how many there are. -/
def fieldSlices : List (Nat × Nat) :=
  [(0, 0), (0, 2), (0, 0), (2, 1), (0, 0), (3, 2), (5, 3), (8, 1), (9, 1), (10, 2), (12, 2), (14, 1)]

/-- The field entries: the number of a field, and the child that has it. -/
def fieldEntries : List (Nat × Nat) :=
  [(7, 1), (10, 0), (3, 1), (2, 2), (3, 1), (5, 0), (8, 1), (9, 2), (7, 0), (1, 0), (1, 0), (6, 6),
   (1, 0), (6, 5), (4, 1)]

/-- The number of symbols in a row of aliases. -/
def aliasLength : Nat := 10

/-- The symbols that the children of each production are shown under, zero for their own. -/
def aliases : List (List Nat) :=
  [List.replicate 10 0, List.replicate 10 0, 94 :: List.replicate 9 0, List.replicate 10 0,
   95 :: List.replicate 9 0] ++ List.replicate 7 (List.replicate 10 0)

/-- The next field entries from a number on. -/
def fieldsFrom? (i : Nat) : (count : Nat) → Option (List (Nat × Nat))
  | 0 => some []
  | count + 1 => (fieldEntries[i]?).bind fun e => (fieldsFrom? (i + 1) count).map (e :: ·)

/-- The field entries of a production. -/
def fields? (production : Nat) : Option (List (Nat × Nat)) :=
  (fieldSlices[production]?).bind fun slice => fieldsFrom? slice.1 slice.2

/-- The alias of a child of a production. -/
def alias? (production place : Nat) : Option Nat := (aliases[production]?).bind (·[place]?)

end Numscript.Packed
