import Numscript.Packed.Table
import Numscript.Tree.Position

/-!
# Moving about in the stored tree

The tree as it is stored holds repetitions inside one another, comments at any depth, and roles by the
places of children in their production. A spot is a tree in it together with the levels above, up to
the root. Moves see through what does not show: a child is searched for inside a repetition by the
numbers of children that count there, and a sibling may stand outside of the repetition that the tree
stands in. `Spot.position` is what a spot shows.
-/
namespace Numscript

/-- Whether a symbol counts among children: all that show, or only the named ones. -/
def Symbol.counts (named : Bool) (s : Symbol) : Bool := s.isVisible && (!named || s.isNamed)

/-- One level on the way from a tree to the root: the phrase above it, and its siblings. -/
structure Level where
  phrase : Nonterminal
  layout : Layout
  /-- The siblings before, the nearest first. -/
  before : List Tree
  /-- The siblings after, the nearest first. -/
  after : List Tree
  deriving Repr

namespace Level

/-- The phrase with a child between the siblings. -/
def whole (l : Level) (t : Tree) : Tree := .node l.phrase l.layout (l.before.reverse ++ t :: l.after)

/-- The place of the child in its production, which comments have no part in. -/
def place (l : Level) : Nat := (l.before.filter fun t => !t.isComment).length

/-- The field of a child. -/
def field? (l : Level) (t : Tree) : Option Field :=
  if t.isComment then none else l.layout.field? l.place

/-- The alias of a child. -/
def alias? (l : Level) (t : Tree) : Option Alias :=
  if t.isComment then none else l.layout.alias? l.place

/-- What a child shows as. -/
def symbol (l : Level) (t : Tree) : Symbol := t.shownSymbol (l.alias? t)

/-- The place of the sibling behind a child. -/
def nextPlace (l : Level) (t : Tree) : Nat := if t.isComment then l.place else l.place + 1

/-- The nodes that show for the siblings before. -/
def nodesBefore (l : Level) : List Node := Tree.nodesFrom l.layout 0 l.before.reverse

/-- The nodes that show for the siblings behind a child. -/
def nodesAfter (l : Level) (t : Tree) : List Node := Tree.nodesFrom l.layout (l.nextPlace t) l.after

end Level

namespace Tree

mutual

/-- How many children of a tree count. Those of a child that does not count itself stand in its place. -/
def countBelow (named : Bool) : Tree → Nat
  | .leaf _ => 0
  | .node phrase layout children => countFrom named phrase layout [] children

/-- How many of the children behind some others count. -/
def countFrom (named : Bool) (phrase : Nonterminal) (layout : Layout) (before : List Tree) :
    List Tree → Nat
  | [] => 0
  | t :: rest =>
    (if ((⟨phrase, layout, before, rest⟩ : Level).symbol t).counts named then 1
      else t.countBelow named) + countFrom named phrase layout (t :: before) rest

end

end Tree

/-- A tree in the stored tree, and the levels above it. -/
structure Spot where
  tree : Tree
  trail : List Level
  deriving Repr

namespace Spot

/-- What a tree shows as below some levels. -/
def symbolIn (t : Tree) : List Level → Symbol
  | [] => t.symbol
  | l :: _ => l.symbol t

mutual

/-- The child with a number among those that count, below a tree. -/
def childBelow? (named : Bool) (i : Nat) : Tree → List Level → Option Spot
  | .leaf _, _ => none
  | .node phrase layout children, trail => childFrom? named phrase layout trail [] i children

/-- The child with a number among those that count, behind some others. -/
def childFrom? (named : Bool) (phrase : Nonterminal) (layout : Layout) (trail : List Level)
    (before : List Tree) : (i : Nat) → List Tree → Option Spot
  | _, [] => none
  | i, t :: rest =>
    let l : Level := ⟨phrase, layout, before, rest⟩
    if (l.symbol t).counts named then
      if i = 0 then some ⟨t, l :: trail⟩
      else childFrom? named phrase layout trail (t :: before) (i - 1) rest
    else if i < t.countBelow named then childBelow? named i t (l :: trail)
    else childFrom? named phrase layout trail (t :: before) (i - t.countBelow named) rest

end

/-- The nearest tree above that shows. -/
def above? (t : Tree) : List Level → Option Spot
  | [] => none
  | l :: trail =>
    if (symbolIn (l.whole t) trail).isVisible then some ⟨l.whole t, trail⟩
    else above? (l.whole t) trail

/-- The next sibling that counts, behind a tree or behind the repetitions that it stands in. -/
def behind? (named : Bool) (t : Tree) : List Level → Option Spot
  | [] => none
  | l :: trail =>
    match childFrom? named l.phrase l.layout trail (t :: l.before) 0 l.after with
    | some s => some s
    | none =>
      if (symbolIn (l.whole t) trail).isVisible then none else behind? named (l.whole t) trail

/-- The last sibling that counts, before a tree or before the repetitions that it stands in. -/
def ahead? (named : Bool) (t : Tree) : List Level → Option Spot
  | [] => none
  | l :: trail =>
    match Tree.countFrom named l.phrase l.layout [] l.before.reverse with
    | i + 1 => childBelow? named i (l.whole t) trail
    | 0 => if (symbolIn (l.whole t) trail).isVisible then none else ahead? named (l.whole t) trail

/-- The child at a place, or what shows first below it. -/
def placeFrom? (place : Nat) (phrase : Nonterminal) (layout : Layout) (trail : List Level) :
    (before : List Tree) → List Tree → Option Spot
  | _, [] => none
  | before, t :: rest =>
    let l : Level := ⟨phrase, layout, before, rest⟩
    if t.isComment || l.place < place then placeFrom? place phrase layout trail (t :: before) rest
    else if (l.symbol t).isVisible then some ⟨t, l :: trail⟩
    else childBelow? false 0 t (l :: trail)

/-- The child with a field, at the place that the field has in the production. -/
def fieldBelow? (f : Field) : Tree → List Level → Option Spot
  | .leaf _, _ => none
  | .node phrase layout children, trail =>
    match (Packed.fields? layout.index).bind (·.lookup f.index) with
    | none => none
    | some place => placeFrom? place phrase layout trail [] children

/-- The spot a move leads to, if there is one. -/
def go? (s : Spot) : Move → Option Spot
  | .childAt i => childBelow? false i.toNat s.tree s.trail
  | .namedChildAt i => childBelow? true i.toNat s.tree s.trail
  | .field name => (Field.ofLabel? name).bind fun f => fieldBelow? f s.tree s.trail
  | .parent => above? s.tree s.trail
  | .next => behind? false s.tree s.trail
  | .prev => ahead? false s.tree s.trail
  | .nextNamed => behind? true s.tree s.trail
  | .prevNamed => ahead? true s.tree s.trail

/-- The spot after a move; where the move fails, nothing changes. -/
def go (s : Spot) (m : Move) : Spot := (s.go? m).getD s

/-- The spot that some moves lead to from the root. -/
def along (tree : Tree) (moves : List Move) : Spot := moves.foldl go ⟨tree, []⟩

/-- The node a tree shows as below some levels. -/
def nodeIn (textEnd : Point) : Tree → List Level → Node
  | t, [] => t.program textEnd
  | .leaf token, l :: _ =>
    .mk ⟨l.symbol (.leaf token), l.field? (.leaf token), token.kind.isComment, token.start,
      token.stop⟩ []
  | .node phrase layout children, l :: _ =>
    .spanning (l.symbol (.node phrase layout children)) (l.field? (.node phrase layout children))
      .origin (Tree.nodesFrom layout 0 children)

/-- The way to the root from between some nodes below a tree. Where the tree does not show, they stand
among those around it. -/
def around (textEnd : Point) (t : Tree) (trail : List Level) (outer : List Branch)
    (before after : List Node) : List Branch :=
  if (symbolIn t trail).isVisible then ⟨(nodeIn textEnd t trail).label, before, after⟩ :: outer
  else match outer with
    | [] => []
    | b :: outer => ⟨b.parent, before ++ b.before, after ++ b.after⟩ :: outer

/-- The way to the root from what a tree shows. -/
def branches (textEnd : Point) (t : Tree) : List Level → List Branch
  | [] => []
  | l :: trail =>
    around textEnd (l.whole t) trail (branches textEnd (l.whole t) trail) l.nodesBefore.reverse
      (l.nodesAfter t)

/-- What a spot shows, in a text that ends at a point. -/
def position (textEnd : Point) (s : Spot) : Position :=
  ⟨nodeIn textEnd s.tree s.trail, branches textEnd s.tree s.trail⟩

end Spot
end Numscript
