import Numscript.Parser.Step

/-!
# Readings

After an opening brace and `remaining`, a destination can be read in two ways, and both readings
are followed until one fails or both come to the same place. A `Front` holds the readings alive.
Where exactly two of them have come to the same token in the same state, they share all that
follows: what lies below the token is laid down as a `Junction` of the two stacks, and a single
reading goes on above it. When a step needs what lies below, the topmost junction is taken up again
and every reading continues over each of its two stacks. So nested braces cost no more than a
constant number of readings at a time.

The reading that pushed `remaining` comes first, and of two readings with the same states at the
same place only the first is kept.
-/
namespace Numscript.Parser

/-- Two stacks below what is shared above them, the preferred one first. -/
structure Junction where
  first : Stack
  second : Stack
  deriving Repr

/-- A stack above the junctions, and the place behind its last token. -/
structure Reading where
  stack : Stack
  point : Point
  deriving Repr

/-- The readings alive, and the junctions below all of them, the topmost first. -/
structure Front where
  spine : List Junction
  readings : List Reading
  deriving Repr

/-- What becomes of a stack before a token when all reductions are made. -/
inductive Ending where
  | pushed (stack : Stack)
  | accepted (root : Tree)
  | failed
  | short

/--
Makes reductions until the token is pushed or refused. A phrase follows itself at most once between
two reductions that shorten the stack, which bounds the number of steps.
-/
def settle (below : Option Nat) (token : Token) : (fuel : Nat) → Stack → List Ending
  | 0, _ => [.failed]
  | fuel + 1, stack =>
    match step below token stack with
    | .shifted stack => [.pushed stack]
    | .reduced stack => settle below token fuel stack
    | .forked pushed kept => .pushed pushed :: settle below token fuel kept
    | .accepted root => [.accepted root]
    | .refused | .stuck => [.failed]
    | .short => [.short]

/-- More reductions than any stack of this height can see before one token. -/
def reductionBound (stack : Stack) : Nat := (stack.length + 2) * (Nonterminal.all.length + 1)

/-- What becomes of a stack at a point of the text when its next token is read. -/
def advanceStack (below : Option Nat) (p : Point) (text : List Glyph) (stack : Stack) :
    List (Ending × Point) :=
  match stack.top? below with
  | none => [(.short, p)]
  | some q =>
    match (Automaton.mode? q).bind fun mode => Lexer.lookahead? mode p text with
    | none => [(.failed, p)]
    | some token =>
      (settle below token (reductionBound stack) stack).map fun e => (e, token.stop)

/-- The trees of the endings that accepted. -/
def accepted? (endings : List (Ending × Point)) : Option Tree :=
  endings.findSome? fun e => match e.1 with
    | .accepted root => some root
    | _ => none

/-- The readings that go on. -/
def alive (endings : List (Ending × Point)) : List Reading :=
  endings.filterMap fun e => match e.1 with
    | .pushed stack => some ⟨stack, e.2⟩
    | _ => none

/-- Whether some reading needs what lies below its stack. -/
def isShort (endings : List (Ending × Point)) : Bool :=
  endings.any fun e => match e.1 with
    | .short => true
    | _ => false

/-- The states of a stack, with a mark on the comments. -/
def Stack.outline (stack : Stack) : List (Nat × Bool) :=
  stack.map fun f => (f.state, f.tree.isComment)

/-- Readings with the same states at the same place go on alike. -/
def Reading.rivals (a b : Reading) : Bool :=
  a.point = b.point && a.stack.outline = b.stack.outline

/-- Keeps the first of any readings that go on alike. -/
def dropRivals : List Reading → List Reading
  | [] => []
  | r :: rest => r :: (dropRivals rest).filter fun s => !r.rivals s

/-- Whether two frames hold the same token in the same state. -/
def Frame.sameToken (a b : Frame) : Bool :=
  a.state = b.state && a.tree.token?.isSome && a.tree.token? = b.tree.token?

/-- Lays down a junction below two readings that have come to the same token in the same state. -/
def Front.join (front : Front) : Front :=
  match front.readings with
  | [⟨a :: first, p⟩, ⟨b :: second, q⟩] =>
    if p = q && a.sameToken b then ⟨⟨first, second⟩ :: front.spine, [⟨[a], p⟩]⟩ else front
  | _ => front

/-- Takes up a junction: every reading goes on over each of its two stacks. -/
def Junction.lower (j : Junction) (readings : List Reading) : List Reading :=
  readings.flatMap fun r => [{ r with stack := r.stack ++ j.first },
    { r with stack := r.stack ++ j.second }]

/-- What becomes of the readings at a point when they read a token; all others stay. -/
def endingsAt (below : Option Nat) (p : Point) (text : List Glyph) (readings : List Reading) :
    List (Ending × Point) :=
  readings.flatMap fun r =>
    if r.point = p then advanceStack below p text r.stack else [(.pushed r.stack, r.point)]

/-- The front of the readings that go on. -/
def goOn (spine : List Junction) (endings : List (Ending × Point)) : Front :=
  Front.join ⟨spine, dropRivals (alive endings)⟩

/-- What one token more makes of a front. -/
inductive Progress where
  | accepted (root : Tree)
  | alive (front : Front)

/--
Reads one token in every reading that stands at a point. The state below the readings is known
only when no junction lies there.
-/
def advance (p : Point) (text : List Glyph) : (spine : List Junction) →
    (readings : List Reading) → Progress
  | [], readings =>
    let endings := endingsAt ground p text readings
    match accepted? endings with
    | some root => .accepted root
    | none => .alive (goOn [] endings)
  | j :: spine, readings =>
    let endings := endingsAt none p text readings
    if isShort endings then advance p text spine (j.lower readings)
    else .alive (goOn (j :: spine) endings)

end Numscript.Parser
