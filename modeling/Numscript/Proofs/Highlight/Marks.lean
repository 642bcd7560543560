import Mathlib.Data.List.Perm.Basic
import Mathlib.Data.List.Flatten
import Numscript.Highlight
import Numscript.Proofs.Tree.Structural

/-!
# Marks

Every pattern of the query marks either nodes of some kinds, or children of a kind in nodes of another one.
So the marks on a tree are found on its edges: what a child is marked with depends on its symbol, on its
field, and on the symbol of its parent.
-/
namespace Numscript

namespace Query

/-- What a pattern marks. -/
inductive Rule where
  /-- Nodes with one of these symbols. -/
  | own (symbols : List Symbol)
  /-- Children with a symbol, in a field if one is given, of nodes with another symbol. -/
  | held (parent : Symbol) (field : Option Field) (symbol : Symbol)

namespace Pattern

/-- The symbol that a pattern without children asks for. -/
def symbol? : Pattern → Option Symbol
  | .named (some s) [] => if s.isNamed then some s else none
  | .anonymous s => some s
  | _ => none

/-- The symbols that all patterns of a list ask for. -/
def symbols? : List Pattern → Option (List Symbol)
  | [] => some []
  | p :: rest => p.symbol?.bind fun s => (symbols? rest).map (s :: ·)

/-- What a pattern marks, and as what. -/
def rule? : Pattern → Option (Rule × String)
  | .capture (.choice options) name => (symbols? options).map fun l => (.own l, name)
  | .capture p name => p.symbol?.map fun s => (.own [s], name)
  | .named (some parent) [.capture p name] =>
    if parent.isNamed then p.symbol?.map fun s => (.held parent none s, name) else none
  | .named (some parent) [.inField field (.capture p name)] =>
    if parent.isNamed then p.symbol?.map fun s => (.held parent (some field) s, name) else none
  | _ => none

theorem fits_of_symbol {p : Pattern} {s : Symbol} (h : p.symbol? = some s) (n : Node) :
    p.fits n = if n.symbol = s then [[]] else [] := by
  unfold symbol? at h
  split at h
  · next t =>
    obtain ⟨hnamed, hsymbol⟩ := Option.ite_none_right_eq_some.1 h
    obtain rfl := Option.some.inj hsymbol
    by_cases hs : n.symbol = t
    · simp [fits, fitsAmong, Node.isNamed, hs, hnamed]
    · simp [fits, hs]
  · obtain rfl := Option.some.inj h
    rfl
  · cases h

theorem fitsOne_of_symbols {options : List Pattern} {l : List Symbol} (h : symbols? options = some l)
    (n : Node) : fitsOne options n = List.replicate (l.count n.symbol) [] := by
  induction options generalizing l with
  | nil =>
    obtain rfl := Option.some.inj h
    rfl
  | cons p options ih =>
    obtain ⟨s, hs, hmap⟩ := Option.bind_eq_some_iff.1 h
    obtain ⟨rest, hrest, rfl⟩ := Option.map_eq_some_iff.1 hmap
    rw [fitsOne, fits_of_symbol hs, ih hrest, List.count_cons]
    by_cases hsymbol : n.symbol = s
    · simp [hsymbol, List.replicate_succ]
    · simp [hsymbol, Ne.symm hsymbol]

theorem map_fst_followed {α : Type} (l : List α) : (followed l).map (·.1) = l := by
  induction l with
  | nil => rfl
  | cons a l ih => rw [followed, List.map_cons, ih]

theorem fitsAmong_singleton (p : Pattern) (nodes : List Node) :
    fitsAmong [p] nodes = nodes.flatMap p.fits := by
  conv_rhs => rw [← map_fst_followed nodes, List.flatMap_map]
  simp [fitsAmong]

end Pattern

namespace Rule

/-- How often a rule marks a node for its own symbol. -/
def onSelf (s : Symbol) : Rule → Nat
  | .own symbols => symbols.count s
  | .held .. => 0

/-- How often a rule marks a child with a symbol and a field, for its parent. -/
def onChild (parent s : Symbol) (f : Option Field) : Rule → Nat
  | .own _ => 0
  | .held parent' field symbol =>
    if parent = parent' ∧ s = symbol ∧ ∀ x ∈ field, f = some x then 1 else 0

/-- The symbol of the children that a rule marks. -/
def child? : Rule → Option Symbol
  | .own _ => none
  | .held _ _ symbol => some symbol

theorem onChild_eq_zero {r : Rule} {s : Symbol} (h : r.child? ≠ some s) (parent : Symbol)
    (f : Option Field) : r.onChild parent s f = 0 := by
  cases r with
  | own => rfl
  | held _ _ symbol => exact if_neg fun hboth => h (congrArg some hboth.2.1.symm)

end Rule
end Query

namespace Highlight

open Query (Pattern Rule)

/-- The rules of the query, with the number of the pattern that each comes from and its name. -/
def rules : List (Rule × String × Nat) :=
  patterns.zipIdx.filterMap fun p => p.1.rule?.map fun r => (r.1, r.2, p.2)

/-- What is left of a way in which a pattern fits. -/
def markOf (i : Nat) (c : Query.Capture) : Mark := ⟨i, c.name, c.node.label⟩

theorem flatMap_marks_replicate (i count : Nat) (name : String) (n : Node) :
    (List.replicate count [(⟨name, n⟩ : Query.Capture)]).flatMap (·.map (markOf i)) =
      List.replicate count ⟨i, name, n.label⟩ := by
  induction count with
  | zero => rfl
  | succ count ih => rw [List.replicate_succ, List.flatMap_cons, ih]; rfl

theorem marks_among {parent : Symbol} (hnamed : parent.isNamed = true) (p : Pattern) (i : Nat) (n : Node) :
    ((Pattern.named (some parent) [p]).fits n).flatMap (·.map (markOf i)) =
      n.children.flatMap fun c =>
        if n.symbol = parent then (p.fits c).flatMap (·.map (markOf i)) else [] := by
  rw [Pattern.fits, Pattern.fitsAmong_singleton]
  by_cases hparent : n.symbol = parent
  · simp [Node.isNamed, hparent, hnamed, List.flatMap_assoc]
  · simp [hparent]

/-- What a rule of the query marks around a node. -/
theorem marks_of_rule {p : Pattern} {r : Rule} {name : String} (h : p.rule? = some (r, name)) (i : Nat)
    (n : Node) : (p.fits n).flatMap (·.map (markOf i)) =
      List.replicate (r.onSelf n.symbol) ⟨i, name, n.label⟩ ++
        n.children.flatMap fun c =>
          List.replicate (r.onChild n.symbol c.symbol c.field) ⟨i, name, c.label⟩ := by
  unfold Pattern.rule? at h
  split at h
  · next options name' =>
    obtain ⟨l, hl, hrule⟩ := Option.map_eq_some_iff.1 h
    cases hrule
    rw [Pattern.fits, Pattern.fits, Pattern.fitsOne_of_symbols hl, List.map_replicate,
      flatMap_marks_replicate]
    simp [Rule.onSelf, Rule.onChild]
  · next q name' _ =>
    obtain ⟨s, hs, hrule⟩ := Option.map_eq_some_iff.1 h
    cases hrule
    rw [Pattern.fits, Pattern.fits_of_symbol hs]
    by_cases hsymbol : n.symbol = s
    · simp [Rule.onSelf, Rule.onChild, hsymbol, markOf]
    · simp [Rule.onSelf, Rule.onChild, hsymbol, Ne.symm hsymbol]
  · next parent q name' =>
    obtain ⟨hnamed, hmap⟩ := Option.ite_none_right_eq_some.1 h
    obtain ⟨s, hs, hrule⟩ := Option.map_eq_some_iff.1 hmap
    cases hrule
    rw [marks_among hnamed, Rule.onSelf, List.replicate_zero, List.nil_append]
    refine List.flatMap_congr fun c _ => ?_
    rw [Pattern.fits, Pattern.fits_of_symbol hs, Rule.onChild]
    by_cases hparent : n.symbol = parent <;> by_cases hsymbol : c.symbol = s <;>
      simp [hparent, hsymbol, markOf]
  · next parent field q name' =>
    obtain ⟨hnamed, hmap⟩ := Option.ite_none_right_eq_some.1 h
    obtain ⟨s, hs, hrule⟩ := Option.map_eq_some_iff.1 hmap
    cases hrule
    rw [marks_among hnamed, Rule.onSelf, List.replicate_zero, List.nil_append]
    refine List.flatMap_congr fun c _ => ?_
    rw [Pattern.fits, Pattern.fits, Pattern.fits_of_symbol hs, Rule.onChild]
    by_cases hparent : n.symbol = parent <;> by_cases hsymbol : c.symbol = s <;>
      by_cases hfield : c.field = some field <;> simp [hparent, hsymbol, hfield, markOf]
  · cases h

theorem isSome_rule? : ∀ p ∈ patterns, p.rule?.isSome = true := by
  decide

/-- The numbers and names of the rules that mark a node for its own symbol. -/
def ownHues (s : Symbol) : List (Nat × String) :=
  rules.flatMap fun r => List.replicate (r.1.onSelf s) (r.2.2, r.2.1)

/-- The numbers and names of the rules that mark a child for its parent. -/
def heldHues (parent s : Symbol) (f : Option Field) : List (Nat × String) :=
  rules.flatMap fun r => List.replicate (r.1.onChild parent s f) (r.2.2, r.2.1)

/-- Marks on a node. -/
def marked (label : Label) (hues : List (Nat × String)) : List Mark :=
  hues.map fun h => ⟨h.1, h.2, label⟩

theorem flatMap_swap_perm {α β γ : Type} (l : List α) (m : List β) (f : α → β → List γ) :
    (l.flatMap fun a => m.flatMap (f a)).Perm (m.flatMap fun b => l.flatMap fun a => f a b) := by
  induction l with
  | nil => simp
  | cons a l ih =>
    simp only [List.flatMap_cons]
    exact (ih.append_left _).trans (List.flatMap_append_perm m (f a) _)

/-- The marks of the query on a node and its children. -/
theorem marksOf_perm (n : Node) :
    (marksOf patterns.zipIdx n).Perm (marked n.label (ownHues n.symbol) ++
      n.children.flatMap fun c => marked c.label (heldHues n.symbol c.symbol c.field)) := by
  have hmarks (numbered : List (Pattern × Nat)) (h : ∀ p ∈ numbered, p.1.rule?.isSome = true) :
      marksOf numbered n = (numbered.filterMap fun p => p.1.rule?.map fun r => (r.1, r.2, p.2)).flatMap
        fun r => List.replicate (r.1.onSelf n.symbol) ⟨r.2.2, r.2.1, n.label⟩ ++
          n.children.flatMap fun c =>
            List.replicate (r.1.onChild n.symbol c.symbol c.field) ⟨r.2.2, r.2.1, c.label⟩ := by
    induction numbered with
    | nil => rfl
    | cons p numbered ih =>
      obtain ⟨⟨r, name⟩, hrule⟩ := Option.isSome_iff_exists.1 (h p List.mem_cons_self)
      have hrest := ih fun q hq => h q (List.mem_cons_of_mem _ hq)
      rw [marksOf] at hrest ⊢
      rw [List.flatMap_cons, hrest, List.filterMap_cons, hrule]
      simp only [Option.map_some, List.flatMap_cons]
      exact congrArg (· ++ _) (marks_of_rule hrule p.2 n)
  have hall : ∀ p ∈ patterns.zipIdx, p.1.rule?.isSome = true := fun p hp =>
    isSome_rule? p.1 (List.fst_mem_of_mem_zipIdx hp)
  rw [hmarks _ hall]
  simp only [marked, ownHues, heldHues, List.map_flatMap, List.map_replicate]
  exact (List.flatMap_append_perm _ _ _).symm.trans ((flatMap_swap_perm _ _ _).append_left _)

/-- The marks on a tree are those on its nodes. -/
theorem marksBelow_eq (numbered : List (Pattern × Nat)) : (n : Node) →
    marksBelow numbered n = (n :: n.inside).flatMap (marksOf numbered)
  | .mk label children => by
    rw [marksBelow, marksBelowAll_eq numbered children, List.flatMap_cons]
    rfl
where
  marksBelowAll_eq (numbered : List (Pattern × Nat)) : (nodes : List Node) →
      marksBelowAll numbered nodes = (Node.insideAll nodes).flatMap (marksOf numbered)
    | [] => rfl
    | n :: rest => by
      rw [marksBelowAll, marksBelow_eq numbered n, marksBelowAll_eq numbered rest, Node.insideAll]
      simp

end Highlight
end Numscript
