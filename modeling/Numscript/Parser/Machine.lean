import Numscript.Parser.Reading

/-!
# The nondeterministic machine

The readings without any sharing: one whole stack, and at each token a free choice where a state
both pushes the token and completes a phrase before it. A text may have several runs. The token is
read in the mode of the state on top, so two runs may even disagree on what the tokens are.

`Reaches` says which readings a text can lead to, and `Recognises` which trees it has.
-/
namespace Numscript.Parser

/-- Some choice of reductions before a token leads from one stack to another. -/
inductive Completes (token : Token) : Stack → Stack → Prop where
  | refl (stack : Stack) : Completes token stack stack
  | reduce {s t u : Stack} (h : step ground token s = .reduced t) (rest : Completes token t u) :
      Completes token s u
  | fork {s pushed t u : Stack} (h : step ground token s = .forked pushed t)
      (rest : Completes token t u) : Completes token s u

/-- Some choice of reductions before a token, and then its push, lead to another stack. -/
inductive Pushes (token : Token) (s : Stack) : Stack → Prop where
  | shift {t u : Stack} (before : Completes token s t) (h : step ground token t = .shifted u) :
      Pushes token s u
  | fork {t u waiting : Stack} (before : Completes token s t)
      (h : step ground token t = .forked u waiting) : Pushes token s u

/-- The token that a reading meets in the text behind it. -/
def Reading.token? (r : Reading) (rest : List Glyph) : Option Token :=
  ((r.stack.top? ground).bind Automaton.mode?).bind fun mode =>
    Lexer.lookahead? mode r.point rest

/-- The readings that some run of the machine over a text comes to. -/
inductive Reaches (text : List Glyph) : Reading → Prop where
  | start : Reaches text ⟨[], .origin⟩
  | push {r : Reading} {before rest : List Glyph} {token : Token} {stack : Stack}
      (reached : Reaches text r) (split : text = before ++ rest)
      (place : r.point = Point.origin.behind before) (read : r.token? rest = some token)
      (pushes : Pushes token r.stack stack) : Reaches text ⟨stack, token.stop⟩

/-- Some run of the machine over a text accepts with this tree. -/
inductive Recognises (text : List Glyph) : Tree → Prop where
  | accept {r : Reading} {before rest : List Glyph} {token : Token} {stack : Stack} {root : Tree}
      (reached : Reaches text r) (split : text = before ++ rest)
      (place : r.point = Point.origin.behind before) (read : r.token? rest = some token)
      (completes : Completes token r.stack stack)
      (accepts : step ground token stack = .accepted root) : Recognises text root

end Numscript.Parser
