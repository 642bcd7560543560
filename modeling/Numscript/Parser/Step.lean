import Numscript.Automaton.Table
import Numscript.Tree.Tree

/-!
# Steps of the parser

The parser keeps a stack of frames, the top first: each holds a tree and the state reached behind
it. The stack may be the upper part of a larger one. `below` is the state under it, and unknown
where the parts below are shared between several readings; a step that needs it then falls `short`.

A comment on the stack keeps the state it was pushed in. A reduction takes the comments between
its children along, leaves those under its first child where they are, and puts those above its
last child back on top of the new phrase.
-/
namespace Numscript.Parser

open Numscript.Automaton (Action Reduction)

/-- A tree on the stack and the state behind it. -/
structure Frame where
  state : Nat
  tree : Tree
  deriving Repr

/-- A stack or the upper part of one, the top first. -/
abbrev Stack := List Frame

/-- The state below a whole stack. -/
def ground : Option Nat := some Automaton.start

/-- The state on top of a stack, which is the one below it when the stack is empty. -/
def Stack.top? (below : Option Nat) : Stack → Option Nat
  | [] => below
  | f :: _ => some f.state

/-- Takes `arity` trees off a stack, and the comments between them. They come in text order. -/
def Stack.pop : (arity : Nat) → Stack → (above : List Tree) → Option (List Tree × Stack)
  | 0, stack, above => some (above, stack)
  | _ + 1, [], _ => none
  | arity + 1, f :: stack, above =>
    if f.tree.isComment then Stack.pop (arity + 1) stack (f.tree :: above)
    else Stack.pop arity stack (f.tree :: above)

/-- What one step makes of a stack before a token. -/
inductive Step where
  /-- The token was pushed. -/
  | shifted (stack : Stack)
  /-- A phrase was completed, and the token still stands before the parser. -/
  | reduced (stack : Stack)
  /-- The token was pushed in one reading, and a phrase completed before it in the other. -/
  | forked (pushed : Stack) (kept : Stack)
  /-- The program is complete. -/
  | accepted (root : Tree)
  /-- The token cannot follow. -/
  | refused
  /-- The step needs what stands below the stack. -/
  | short
  /-- The stack does not hold the phrase, or the phrase leads nowhere. -/
  | stuck

/-- Completes a phrase on top of a stack, below the comments that end the stack. -/
def reduce (below : Option Nat) (r : Reduction) (stack : Stack) : Step :=
  let comments := stack.takeWhile (·.tree.isComment)
  match Stack.pop r.arity (stack.dropWhile (·.tree.isComment)) [] with
  | none => if below.isSome then .stuck else .short
  | some (children, rest) =>
    match rest.top? below with
    | none => .short
    | some q =>
      match Automaton.goto? q r.phrase with
      | none => .stuck
      | some next =>
        .reduced (comments.map (fun c => { c with state := next }) ++
          ⟨next, .node r.phrase r.layout children⟩ :: rest)

/-- The program over a whole stack: the comments around it become its first and last children. -/
def root? (stack : Stack) : Option Tree :=
  let trees := (stack.map (·.tree)).reverse
  match trees.dropWhile Tree.isComment with
  | .node phrase layout children :: after =>
    some (.node phrase layout (trees.takeWhile Tree.isComment ++ children ++ after))
  | _ => none

/-- One step before a token. -/
def step (below : Option Nat) (token : Token) (stack : Stack) : Step :=
  match stack.top? below with
  | none => .short
  | some q =>
    match Automaton.action? q token.kind with
    | none => .refused
    | some (.shift next) => .shifted (⟨next, .leaf token⟩ :: stack)
    | some .pass => .shifted (⟨q, .leaf token⟩ :: stack)
    | some (.reduce r) => reduce below r stack
    | some (.both next r) =>
      match reduce below r stack with
      | .reduced kept => .forked (⟨next, .leaf token⟩ :: stack) kept
      | other => other
    | some .accept =>
      match below, root? stack with
      | none, _ => .short
      | some _, some tree => .accepted tree
      | some _, none => .stuck
    | some .recover => .refused

end Numscript.Parser
