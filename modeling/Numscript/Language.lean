import Numscript.Automaton.Table
import Numscript.Symbol.Symbol

/-!
# The language descriptor

What a reader of the language is told about its tables, and the versions of table formats that can
be loaded.
-/
namespace Numscript

/-- The descriptor of a language. -/
structure Language where
  /-- The version of the format of the tables. -/
  version : Nat
  /-- The number of symbols, aliases included. -/
  symbols : Nat
  /-- The number of states of the parsing automaton. -/
  states : Nat
  /-- The number of fields. -/
  fields : Nat
  deriving DecidableEq, Repr

/-- A descriptor that cannot be loaded. -/
inductive LoadError where
  /-- The format of the tables is older or newer than what can be read. -/
  | incompatibleVersion (version : Nat)
  deriving DecidableEq, Repr

namespace Language

/-- The descriptor of this language. -/
def numscript : Language := ⟨14, Symbol.all.length, Automaton.stateCount, Field.all.length⟩

/-- The oldest version that can be loaded. -/
def oldestVersion : Nat := 13

/-- The newest version that can be loaded. -/
def newestVersion : Nat := 14

/-- Loads a descriptor: its version must be one that can be read. -/
def load (l : Language) : Except LoadError Language :=
  if oldestVersion ≤ l.version ∧ l.version ≤ newestVersion then .ok l
  else .error (.incompatibleVersion l.version)

end Language

namespace LoadError

/-- What went wrong. -/
def message : LoadError → String
  | .incompatibleVersion _ => "Error loading Numscript grammar"

/-- Why it went wrong. -/
def cause : LoadError → String
  | .incompatibleVersion version =>
    s!"Incompatible language version {version}. Expected minimum {Language.oldestVersion}, " ++
      s!"maximum {Language.newestVersion}"

end LoadError
end Numscript
