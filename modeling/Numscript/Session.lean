import Numscript.Program
import Numscript.Tree.Expression

/-!
# Sessions

A session holds a text and parses it anew after every change. The text is a list of bytes; an edit
takes some of them out and puts others in their place.
-/
namespace Numscript

/-- A change of the text of a session. -/
inductive Change where
  /-- A new text takes the place of the old one. -/
  | replace (bytes : List UInt8)
  /-- `remove` bytes at `start` give way to others. -/
  | edit (start remove : Nat) (insert : List UInt8)
  /-- The text becomes empty and is not parsed. -/
  | reset
  deriving DecidableEq, Repr

/-- An edit that cannot be made. -/
inductive EditError where
  /-- The bytes to be taken out do not all lie in the text. -/
  | outside
  deriving DecidableEq, Repr

/-- What went wrong with an edit. -/
def EditError.message : EditError → String
  | .outside => "edit outside the source"

/-- What a session answers to a change. -/
inductive Response where
  /-- The number of bytes of the text, and what is known of it. -/
  | parsed (bytes : Nat) (program : Program)
  | wasReset
  | refused (e : EditError)
  deriving Repr

/-- A session is known by its text. -/
structure Session where
  text : List UInt8
  deriving DecidableEq, Repr

namespace Session

/-- A session before any change. -/
def empty : Session := ⟨[]⟩

/-- The text after an edit. -/
def edited (text : List UInt8) (start remove : Nat) (insert : List UInt8) :
    Except EditError (List UInt8) :=
  if start + remove ≤ text.length then
    .ok (text.take start ++ insert ++ text.drop (start + remove))
  else .error .outside

/-- Parses the text of a session. -/
def parsed (s : Session) : Session × Response :=
  (s, .parsed s.text.length (Program.ofBytes s.text))

/-- Makes a change and answers what it led to. An edit that cannot be made changes nothing. -/
def change (s : Session) : Change → Session × Response
  | .replace bytes => parsed ⟨bytes⟩
  | .edit start remove insert =>
    match edited s.text start remove insert with
    | .ok text => parsed ⟨text⟩
    | .error e => (s, .refused e)
  | .reset => (empty, .wasReset)

/-- Makes changes one after another. -/
def run (s : Session) : List Change → List Response
  | [] => []
  | c :: rest => (s.change c).2 :: (s.change c).1.run rest

end Session
end Numscript
