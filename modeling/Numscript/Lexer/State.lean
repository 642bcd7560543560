import Numscript.Text.Glyph
import Numscript.Symbol.Terminal

/-!
# Lexer states

The lexer is a deterministic automaton over code points. A state may recognise a token and has
moves on classes of code points, of which the first that covers the code point is taken. A mode is
a state in which a token starts: it recognises nothing and passes over white space. Stray bytes are
in no class, and neither is the code point zero.
-/
namespace Numscript.Lexer

/-- A set of code points, as a list of closed ranges. -/
abbrev CharClass := List (Nat × Nat)

namespace CharClass

/-- Whether a code point lies in one of the ranges. -/
def covers (cls : CharClass) (code : Nat) : Bool :=
  cls.any fun r => r.1 ≤ code && code ≤ r.2

/-- The class of a single character. -/
def only (c : Char) : CharClass := [(c.toNat, c.toNat)]

/-- Decimal digits. -/
def digit : CharClass := [(0x30, 0x39)]

/-- Small letters. -/
def small : CharClass := [(0x61, 0x7A)]

/-- Capital letters. -/
def capital : CharClass := [(0x41, 0x5A)]

/-- Letters. -/
def letter : CharClass := small ++ capital

/-- Digits and capital letters, the characters of an asset. -/
def assetChar : CharClass := digit ++ capital

/-- Small letters and the underscore, the characters of an identifier. -/
def wordChar : CharClass := small ++ [(0x5F, 0x5F)]

/-- The characters of a variable name after the first one. -/
def variableChar : CharClass := digit ++ wordChar

/-- Letters, digits, the underscore and the hyphen, the characters of an account name. -/
def accountChar : CharClass := letter ++ digit ++ [(0x5F, 0x5F), (0x2D, 0x2D)]

/-- All code points from one on. -/
def anything : CharClass := [(1, 0x10FFFF)]

/-- What a line comment may hold: anything but a line feed. -/
def inLine : CharClass := [(1, 9), (11, 0x10FFFF)]

/-- What a string may hold: anything but a line feed and a carriage return. -/
def inString : CharClass := [(1, 9), (11, 12), (14, 0x10FFFF)]

end CharClass

/-- A state of the lexer. -/
structure State where
  /-- The token recognised on reaching this state. -/
  accepts : Option Terminal
  /-- Whether the end of the text is a token here. -/
  ends : Bool
  /-- Whether white space is passed over here. -/
  skips : Bool
  /-- The moves on code points; the first that applies is taken. -/
  moves : List (CharClass × Nat)
  deriving Repr

namespace State

/-- A mode: white space is passed over before the token. -/
def mode (moves : List (CharClass × Nat)) : State := ⟨none, false, true, moves⟩

/-- A mode in which the text may end. -/
def lastMode (moves : List (CharClass × Nat)) : State := ⟨none, true, true, moves⟩

/-- A state within a token. -/
def inside (moves : List (CharClass × Nat)) : State := ⟨none, false, false, moves⟩

/-- A state in which a token is complete, though a longer one may follow from here. -/
def token (t : Terminal) (moves : List (CharClass × Nat)) : State := ⟨some t, false, false, moves⟩

/-- The token recognised on reaching this state at place `here`, else the one found before. -/
def recognise (s : State) (here : Nat) (before : Option (Terminal × Nat)) :
    Option (Terminal × Nat) :=
  match s.accepts with
  | some t => some (t, here)
  | none => before

/-- Where a code point leads. -/
def next? (s : State) (code : Nat) : Option Nat :=
  (s.moves.find? fun m => CharClass.covers m.1 code).map (·.2)

end State
end Numscript.Lexer
