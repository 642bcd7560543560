import Numscript.Lexer.Pages

/-!
# Runs of the lexer

A run starts in a state, passes over white space, and moves on for as long as there is a move. It
answers the token that was recognised last, which is the longest one. Places are counted in glyphs
from the start of the run.
-/
namespace Numscript.Lexer

/-- The states in pages of sixty-four. -/
def pages : List (List State) := [page0, page1, page2, page3, page4, page5]

/-- The number of states. -/
def stateCount : Nat := 332

/-- The state in which every token may start. It is the last resort of every other mode. -/
def errorMode : Nat := 0

/-- The state with a number. A number without a state recognises nothing and has no moves. -/
def state (q : Nat) : State := ((pages[q / 64]?).bind (·[q % 64]?)).getD (.inside [])

/-- What a run found. -/
structure Scan where
  /-- Where the token starts, behind the white space that was passed over. -/
  start : Nat
  /-- The token and where it ends. -/
  found : Option (Terminal × Nat)
  /-- Where the run stopped, which may lie behind the end of the token. -/
  stop : Nat
  deriving DecidableEq, Repr

/--
Continues a run that reached state `q` at place `here`. At the end of the text no code point is
read, and the end itself is a token where the state allows it.
-/
def scanFrom (q start here : Nat) (found : Option (Terminal × Nat)) : List Glyph → Scan
  | [] =>
    let atEnd := if (state q).ends then some (.endOfText, here) else (state q).recognise here found
    ⟨start, atEnd, here⟩
  | g :: rest =>
    if (state q).skips && g.isBlank then scanFrom q (here + 1) (here + 1) found rest
    else
      match g with
      | .stray => ⟨start, (state q).recognise here found, here⟩
      | .char code =>
        match (state q).next? code with
        | some r => scanFrom r start (here + 1) ((state q).recognise here found) rest
        | none => ⟨start, (state q).recognise here found, here⟩

/-- Runs the lexer from state `q` over a text. -/
def scan (q : Nat) (text : List Glyph) : Scan := scanFrom q 0 0 none text

end Numscript.Lexer
