import Mathlib.Data.List.Forall2
import Numscript.Proofs.Tiling

/-!
# Stretches of tokens

The leaves of a node stand next to one another among the leaves of the program. So a node shows a stretch of the
tokens that were read from the text, and spans from the first of them to the last one.
-/
namespace Numscript

namespace Node

mutual

/-- The leaves of a node below another one follow one another. -/
theorem leaves_isInfix {c : Node} : (n : Node) → c ∈ n.inside → c.leaves <:+: n.leaves
  | .mk _ [], hc => nomatch hc
  | .mk _ (n :: rest), hc => leavesOfAll_isInfix (n :: rest) hc

theorem leavesOfAll_isInfix {c : Node} :
    (nodes : List Node) → c ∈ insideAll nodes → c.leaves <:+: leavesOfAll nodes
  | [], hc => nomatch hc
  | n :: rest, hc => by
    rw [insideAll, List.mem_cons, List.mem_append] at hc
    rw [leavesOfAll]
    rcases hc with rfl | hc | hc
    · exact (List.prefix_append _ _).isInfix
    · exact (leaves_isInfix n hc).trans (List.prefix_append _ _).isInfix
    · exact (leavesOfAll_isInfix rest hc).trans (List.suffix_append _ _).isInfix

end

/-- A node shows some tokens of a text that stand next to one another among all that were read. -/
structure Shows (text : List Glyph) (tokens read : List Token) (n : Node) : Prop where
  stretch : read <:+: tokens
  leaves : List.Forall₂ Label.Shows read n.leaves
  /-- Each of them is a lexeme at its place in the text. -/
  spans : ∀ t ∈ read, t.Spans text
  /-- The node spans from the first of them to the last one. -/
  start : read.head?.map Token.start = some n.label.start
  stop : read.getLast?.map Token.stop = some n.label.stop

end Node

theorem forall₂_filter {tokens : List Token} {labels : List Label}
    (h : List.Forall₂ Label.Shows tokens labels) :
    List.Forall₂ Label.Shows (tokens.filter fun t => t.kind.isComment) (labels.filter fun l => l.extra) ∧
      List.Forall₂ Label.Shows (tokens.filter fun t => !t.kind.isComment)
        (labels.filter fun l => !l.extra) := by
  induction h with
  | nil => exact ⟨.nil, .nil⟩
  | @cons t l _ _ hshows _ ih =>
    have hextra := hshows.extra
    cases hkind : t.kind.isComment with
    | true => simpa [hkind, hextra] using And.intro ⟨hshows, ih.1⟩ ih.2
    | false => simpa [hkind, hextra] using And.intro ih.1 ⟨hshows, ih.2⟩

theorem Parser.Accepts.spans {text : List Glyph} {tokens : List Token} {root : Tree}
    (h : Accepts text tokens root) : ∀ t ∈ tokens, t.Spans text := by
  cases h with
  | mk reads => exact fun t ht => (reads.spans t ht).2

/-- A part of the labels shows a stretch of the tokens. -/
theorem exists_stretch {tokens : List Token} {labels part : List Label}
    (h : List.Forall₂ Label.Shows tokens labels) (stretch : part <:+: labels) :
    ∃ read, read <:+: tokens ∧ List.Forall₂ Label.Shows read part := by
  obtain ⟨before, after, rfl⟩ := stretch
  have hfront := List.forall₂_take_append _ _ _ h
  exact ⟨_, (List.drop_suffix _ _).isInfix.trans (List.take_prefix _ _).isInfix,
    List.forall₂_drop_append _ _ _ hfront⟩

theorem head?_of_shows {tokens : List Token} {labels : List Label} (h : List.Forall₂ Label.Shows tokens labels) :
    tokens.head?.map Token.start = labels.head?.map Label.start := by
  cases h with
  | nil => rfl
  | cons hshows _ => exact congrArg some hshows.start.symm

theorem getLast?_of_shows {tokens : List Token} {labels : List Label}
    (h : List.Forall₂ Label.Shows tokens labels) :
    tokens.getLast?.map Token.stop = labels.getLast?.map Label.stop := by
  induction h with
  | nil => rfl
  | cons hshows hrest ih =>
    cases hrest with
    | nil => exact congrArg some hshows.stop.symm
    | cons => simpa using ih

/-- Every node below the root of a program shows a stretch of the tokens that were read. -/
theorem exists_shows_of_mem_inside {text : List Glyph} {tokens : List Token} {root : Node}
    (shows : List.Forall₂ Label.Shows tokens root.leaves) (spans : ∀ t ∈ tokens, t.Spans text) {n : Node}
    (mem : n ∈ root.inside) (spanned : n.Spanned) : ∃ read, n.Shows text tokens read := by
  obtain ⟨read, hstretch, hshows⟩ := exists_stretch shows (Node.leaves_isInfix root mem)
  obtain ⟨⟨first, hfirst, hstart⟩, ⟨last, hlast, hstop⟩⟩ := spanned.ends
  refine ⟨read, hstretch, hshows, fun t ht => spans t (hstretch.subset ht), ?_, ?_⟩
  · rw [head?_of_shows hshows, Option.mem_def.1 hfirst, hstart]
    rfl
  · rw [getLast?_of_shows hshows, Option.mem_def.1 hlast, hstop]
    rfl

end Numscript
