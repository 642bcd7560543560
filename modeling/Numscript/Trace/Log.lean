import Numscript.Parser.Reading
import Numscript.Trace.Event

/-!
# The log of a parse

The log follows the parser over the text: for every token it reports the runs of the lexer, the
token, and what the parser does before and with it. It goes on to the end of a valid program. It
stops at the first token that cannot follow, and where two readings have to be followed.
-/
namespace Numscript.Trace

open Numscript.Parser (Stack Step)

/-- Why a log ends. -/
inductive Stop where
  /-- The text was parsed. -/
  | done
  /-- A token cannot follow. -/
  | error
  /-- From here on there is more than one reading. -/
  | ambiguous
  deriving DecidableEq, Repr

/-- The reports of one run of the lexer: what it passes over, then what it reads. -/
def runEvents (r : Lexer.Run) (text : List Glyph) : List Event :=
  .lexing r.mode r.point ::
    ((text.take r.lead).map .skip ++ ((text.take r.length).drop r.lead).map .consume)

/--
After a run of the error mode that found no token, the next one starts `pass` glyphs further on. A
run that read nothing passes over one glyph. Answers the reports and the point where a token can
start again.
-/
def resume : (pass : Nat) → Point → List Glyph → List Event × Point
  | _, p, [] => (runEvents (Lexer.run Lexer.errorMode p []) [], p)
  | pass + 1, p, g :: rest => resume pass (p.after g) rest
  | 0, p, g :: rest =>
    let r := Lexer.run Lexer.errorMode p (g :: rest)
    let events := runEvents r (g :: rest)
    if r.scan.found.isSome then (events, p)
    else
      let next := resume (r.length - 1) (p.after g) rest
      (events ++ (if r.length = 0 then [.consume g] else []) ++ next.1, next.2)

/-- The reports on text in which no token starts, after a failed run of the error mode. -/
def unrecognized (r : Lexer.Run) (text : List Glyph) : List Event × Point :=
  let start := r.point.behind (text.take r.lead)
  match text.drop r.lead with
  | [] => ([.skipUnrecognized], start)
  | g :: rest =>
    let next := resume (r.length - r.lead - 1) (start.after g) rest
    (.skipUnrecognized :: (if r.length = r.lead then [.consume g] else []) ++ next.1, next.2)

/-- The reports on reading the token at a point, and the token if there is one. -/
def tokenEvents (mode : Nat) (p : Point) (text : List Glyph) : List Event × Option Token :=
  let first := Lexer.run mode p text
  match first.token? text with
  | some t =>
    (runEvents first text ++ [.lookahead (some t.kind) (t.stop.byte - p.byte)], some t)
  | none =>
    let second := Lexer.run Lexer.errorMode p text
    match second.token? text with
    | some t =>
      (runEvents first text ++ runEvents second text ++
        [.lookahead (some t.kind) (t.stop.byte - p.byte)], some t)
    | none =>
      let next := unrecognized second text
      (runEvents first text ++ runEvents second text ++ next.1 ++
        [.lookahead none (next.2.byte - p.byte)], none)

/-- What the parser comes to with a token. -/
inductive Outcome where
  | pushed (stack : Stack)
  | accepted
  | stopped (why : Stop)

/-- The reports on what the parser does before and with a token. -/
def parserEvents (token : Token) : (fuel : Nat) → Stack → List Event × Outcome
  | 0, _ => ([.detectError], .stopped .error)
  | fuel + 1, stack =>
    let state := stack.top? Parser.ground
    match state.bind fun q => Automaton.action? q token.kind,
        Parser.step Parser.ground token stack with
    | some (.reduce r), .reduced next =>
      let rest := parserEvents token fuel next
      (.reduce r.phrase r.arity :: rest.1, rest.2)
    | some (.shift q), .shifted next => ([.shift q], .pushed next)
    | some .pass, .shifted next => ([.shiftExtra], .pushed next)
    | some (.both q r), .forked .. =>
      ([.reduce r.phrase r.arity, .shift q], .stopped .ambiguous)
    | some .accept, .accepted _ => ([.accept], .accepted)
    | _, _ => ([.detectError], .stopped .error)

/-- What is reported on one token, what the parser comes to with it, and where the token ends. -/
structure Turn where
  events : List Event
  outcome : Outcome
  place : Point

/-- Reads the token at a point and lets the parser go on with it. -/
def turn (stack : Stack) (p : Point) (text : List Glyph) : Turn :=
  let state := (stack.top? Parser.ground).getD Automaton.start
  let read := tokenEvents ((Automaton.mode? state).getD Lexer.errorMode) p text
  match read.2 with
  | none => ⟨.process state p :: (read.1 ++ [.detectError]), .stopped .error, p⟩
  | some token =>
    let after := parserEvents token (Parser.reductionBound stack) stack
    ⟨.process state p :: (read.1 ++ after.1), after.2, token.stop⟩

/--
The log over the rest of a text from point `p` on. The next token is read at `place`, where the
last one ended.
-/
def logFrom (stack : Stack) (place p : Point) : List Glyph → List Event × Stop
  | [] =>
    let now := turn stack p []
    match now.outcome with
    | .accepted => (now.events ++ [.done, .parsed p.byte false], .done)
    | .stopped why => (now.events, why)
    | .pushed _ => (now.events, .error)
  | g :: rest =>
    if place = p then
      let now := turn stack p (g :: rest)
      match now.outcome with
      | .accepted => (now.events ++ [.done, .parsed (p.behind (g :: rest)).byte false], .done)
      | .stopped why => (now.events, why)
      | .pushed next =>
        let later := logFrom next now.place (p.after g) rest
        (now.events ++ later.1, later.2)
    else logFrom stack place (p.after g) rest

/-- The log of a text, and why it ends. -/
def log (text : List Glyph) : List Event × Stop :=
  let events := logFrom [] .origin .origin text
  (.newParse :: events.1, events.2)

/-- The events of the channels that are listened to. -/
def heard (channels : List Channel) (events : List Event) : List Event :=
  events.filter fun e => channels.contains e.channel

end Numscript.Trace
