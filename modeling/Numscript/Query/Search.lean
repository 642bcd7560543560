import Numscript.Automaton.Stage
import Numscript.Query.Place

/-!
# Patterns that nothing can fit

The automaton tells which children a node of a kind can have. The search goes through the stages of
the kind and fills the places of a demand along the way. A repetition does not show, so the search
enters it and goes through its stages in between. If it reaches the end of the row, some node may
fit. If every way ends before, the pattern is impossible, and what is wrong is the last place that a
way ended at.

The search goes forward from the way that is behind all others. A repetition inside of itself is put
off until ways have ended without it. There are bounds on the depth of the repetitions and on the
number of rounds; a demand whose search meets a bound counts as possible.
-/
namespace Numscript.Query

open Numscript.Automaton (Exit Stage)

/-- A phrase that is being read, the number of its children so far, and the field it stands in. -/
structure Frame where
  phrase : Nonterminal
  state : Nat
  filled : Nat
  field : Option Field
  deriving DecidableEq, Repr

namespace Frame

/-- An order of frames, their numbers of children aside. -/
def order (a b : Frame) : Ordering :=
  (compare a.phrase.index b.phrase.index).then <|
    (compare a.state b.state).then <|
      compare ((a.field.map Field.index).getD 0) ((b.field.map Field.index).getD 0)

/-- Frames compared one after another. -/
def orderAll : List Frame → List Frame → Ordering
  | a :: as, b :: bs => (a.order b).then (orderAll as bs)
  | _, _ => .eq

end Frame

/-- How far a way has come: the place to be filled next, and the phrases that are being read. -/
structure Way where
  place : Nat
  /-- The phrases that are being read, the innermost one first. -/
  frames : List Frame
  deriving DecidableEq, Repr

namespace Way

/-- The order of paths by the numbers of children; a path comes before those it extends. -/
def orderPaths : List Nat → List Nat → Ordering
  | [], [] => .eq
  | [], _ :: _ => .gt
  | _ :: _, [] => .lt
  | m :: ms, n :: ns => (compare m n).then (orderPaths ms ns)

/-- The order of ways by how far they have come. -/
def orderPosition (a b : Way) : Ordering :=
  (orderPaths (a.frames.reverse.map (·.filled)) (b.frames.reverse.map (·.filled))).then
    (compare a.place b.place)

/-- The order in which ways are kept. -/
def order (a b : Way) : Ordering :=
  (a.orderPosition b).then (Frame.orderAll a.frames.reverse b.frames.reverse)

/-- Adds a way to a list in order, the way that has come furthest first; none is held twice. -/
def insert (w : Way) : List Way → List Way
  | [] => [w]
  | v :: rest =>
    match w.order v with
    | .gt => w :: v :: rest
    | .eq => v :: rest
    | .lt => v :: insert w rest

/-- The number of frames for a phrase that is also being read further out. -/
def recursion (frames : List Frame) : Nat :=
  match frames with
  | [] => 0
  | f :: outer => (if outer.any (·.phrase = f.phrase) then 1 else 0) + recursion outer

end Way

/-- What one step makes of a way. -/
inductive Outcome where
  /-- It goes on. -/
  | onward (w : Way)
  /-- It goes on in a repetition that is inside of itself. -/
  | deeper (w : Way)
  /-- The node is complete, and this place is not filled. -/
  | ended (place : Nat)
  /-- All places are filled. -/
  | fits
  /-- Too many repetitions are inside of one another. -/
  | tooDeep
  deriving Repr

/-- What does not change during a search: the row, and the stages of the phrases. -/
structure Terrain where
  row : List Place
  stages : List (Nonterminal × List Stage)

namespace Terrain

/-- The ground on which a demand on the children of a phrase is searched. -/
def of (phrase : Nonterminal) (row : List Place) : Terrain where
  row := row
  stages := (phrase :: Nonterminal.all.filter (·.isRepetition)).map fun n =>
    (n, Automaton.stages n)

/-- The stages of a phrase that an exit leads to from a number of children. -/
def stagesAt (t : Terrain) (phrase : Nonterminal) (filled : Nat) (exit : Exit) : List Stage :=
  let filled := if exit.counts then filled + 1 else filled
  ((t.stages.lookup phrase).getD []).filter fun s => s.state = exit.next && s.filled = filled

/-- How a child at a place shows, if it shows. -/
def shown? (layout : Layout) (place : Nat) (symbol : Symbol) : Option Symbol :=
  match layout.alias? place with
  | some a => some (.alias a)
  | none => if symbol.isVisible then some symbol else none

/-- A way whose next place and phrases are known. -/
def settle (t : Terrain) (frames : List Frame) (place : Nat) : Outcome :=
  if t.row.length ≤ place then .fits
  else if frames.isEmpty then .ended place
  else .onward ⟨place, frames⟩

/-- The number of phrases that are being read at once stays below this bound. -/
def depthBound : Nat := 8

/-- Enters a repetition, which must not be inside of itself more often than `limit`. -/
def enter (place limit : Nat) (frame : Frame) (outer : List Frame) (isComplete : Bool) : Outcome :=
  if !isComplete && depthBound ≤ outer.length + 1 then .tooDeep
  else if limit < Way.recursion (frame :: outer) then .deeper ⟨place, frame :: outer⟩
  else .onward ⟨place, frame :: outer⟩

/-- What an exit to a stage makes of a way whose next place is a child. -/
def follow (t : Terrain) (limit place : Nat) (wanted : Wanted) (field : Option Field)
    (top : Frame) (outer : List Frame) (exit : Exit) (stage : Stage) : List Outcome :=
  let held := top.field <|> stage.layout.field? top.filled
  let frames := if stage.isComplete then outer
    else { top with state := exit.next, filled := stage.filled } :: outer
  match shown? stage.layout top.filled exit.symbol, exit.symbol with
  | none, .nonterminal phrase =>
    [enter place limit ⟨phrase, top.state, 0, held⟩ frames stage.isComplete]
  | shown, _ =>
    if shown.any wanted.admits && (field.isNone || field = held) then
      (Place.stops t.row (place + 1)).map (t.settle frames)
    else if exit.next = top.state then []
    else [t.settle frames place]

/-- What one step makes of a way. -/
def step (t : Terrain) (limit : Nat) (w : Way) : List Outcome :=
  match w.frames, t.row[w.place]? with
  | top :: outer, some (.child wanted field _ _) =>
    (Automaton.exits top.state).flatMap fun exit =>
      (t.stagesAt top.phrase top.filled exit).flatMap
        (t.follow limit w.place wanted field top outer exit)
  | _, _ => []

end Terrain

/-- What a search has found. -/
structure Search where
  /-- The ways for the next round, the one that has come furthest first. -/
  next : List Way
  /-- The ways that are put off, in the same order. -/
  deeper : List Way
  /-- The places at which ways have ended, each once. -/
  ended : List Nat
  fits : Bool
  /-- Whether a bound was met. -/
  stopped : Bool

namespace Search

/-- Takes in what a step has made of a way. -/
def add (s : Search) : Outcome → Search
  | .onward w => { s with next := w.insert s.next }
  | .deeper w => { s with deeper := w.insert s.deeper }
  | .ended place => { s with ended := s.ended.insert place }
  | .fits => { s with fits := true }
  | .tooDeep => { s with stopped := true }

/--
One round over the ways, the one that is furthest behind first. A way that is ahead of all ways for
the next round waits for them, and so do the ways after it.
-/
def round (t : Terrain) (limit : Nat) : List Way → Search → Search
  | [], s => s
  | w :: rest, s =>
    match s.next.head?.map w.orderPosition with
    | some .eq => round t limit rest (s.add (.onward w))
    | some .gt => { s with next := (w :: rest).reverse ++ s.next }
    | _ => round t limit rest ((t.step limit w).foldl add s)

/--
The search over a number of rounds. When no way is left, those put off are taken up if a way has
ended since the last time that this was done; `seen` places had been ended at by then.
-/
def run (t : Terrain) : (rounds limit seen : Nat) → List Way → Search → Search
  | 0, _, _, _, s => { s with stopped := true }
  | rounds + 1, limit, seen, [], s =>
    if !s.deeper.isEmpty && seen < s.ended.length then
      run t rounds (limit + 1) s.ended.length s.deeper.reverse { s with deeper := [] }
    else s
  | rounds + 1, limit, seen, w :: rest, s =>
    let s := round t limit (w :: rest) { s with next := [] }
    run t rounds limit seen s.next.reverse s

/-- The search stops after this number of rounds. -/
def roundBound : Nat := 256

/-- The search for children of a phrase that fill the places of a row. -/
def ofRow (phrase : Nonterminal) (row : List Place) : Search :=
  let ways := (Automaton.origins phrase).map fun q => ⟨0, [⟨phrase, q, 0, none⟩]⟩
  run (.of phrase row) roundBound 0 0 ways ⟨[], [], [], false, false⟩

end Search

namespace Demand

/-- The phrase that a symbol shows. Anonymous nodes and tokens are no phrases. -/
def phrase? : Symbol → Option Nonterminal
  | .nonterminal n => some n
  | .alias .sentLiteral => some .valueExpr
  | .alias .accountVar | .terminal _ | .error => none

/-- The place that cannot be filled, if no node can meet a demand. An error can hold anything. -/
def impossiblePlace? (d : Demand) : Option Nat :=
  match phrase? d.kind with
  | none => if d.kind = .error then none else some 0
  | some phrase =>
    let s := Search.ofRow phrase d.row
    if s.fits || s.stopped then none else some (s.ended.foldl max 0)

/-- The part of a pattern that cannot be met, if no node can meet a demand. -/
def impossiblePart? (d : Demand) : Option Nat :=
  match d.impossiblePlace?.bind (d.row[·]?) with
  | some (.child _ _ _ part) => some part
  | _ => none

end Demand

/-- The part of a pattern that cannot be met, if the pattern is impossible. -/
def Pattern.impossiblePart? (p : Pattern) : Option Nat :=
  (p.demands 0).findSome? Demand.impossiblePart?

end Numscript.Query
