import Numscript.Grammar.Derivation
import Numscript.Proofs.Regular.Partial

/-!
# Productions

The rule of a phrase, taken apart into its alternatives. An alternative is a list of items without
any choice; where a rule repeats something, the alternative has a single item, the repetition, and
a repetition gathers its items from the left. The main statement is `fits_rule_iff`: the children
of a phrase follow its rule if and only if they are spelled by one of its productions.
-/
namespace Numscript.Grammar



/-- The repetition that gathers the words of an expression, if the language has one. -/
def repetition? (r : Rule) : Option Nonterminal :=
  Nonterminal.all.find? fun n => n.isRepetition && rule n = .oneOrMore r

/-- A single item: the repetition that gathers the words of an expression. -/
def repeated (r : Rule) : List (List Item) :=
  (repetition? r).toList.map fun n => [⟨.nonterminal n, none⟩]

/-- The alternatives of an expression. -/
def alternatives : Rule → List (List Item)
  | .never => []
  | .done => [[]]
  | .one i => [[i]]
  | .alt r s => alternatives r ++ alternatives s
  | .many r => [] :: repeated r
  | .seq r s =>
    if s = .many r then repeated r
    else (alternatives r).flatMap fun u => (alternatives s).map (u ++ ·)

/-- The productions of a phrase. A repetition is a first item, or itself with one item more. -/
def productions (n : Nonterminal) : List (List Item) :=
  if n.isRepetition then
    match rule n with
    | .seq r _ => alternatives r ++ (alternatives r).map (⟨.nonterminal n, none⟩ :: ·)
    | _ => []
  else alternatives (rule n)

/-- Whether an item is a repetition. -/
def Item.isRepetition (i : Item) : Bool :=
  match i.symbol with
  | .nonterminal n => n.isRepetition
  | _ => false

/-- The items that a production spells: in place of a repetition stand the items it gathers. -/
inductive Spells : List Item → List Item → Prop where
  | nil : Spells [] []
  | single {i : Item} {p w : List Item} (plain : i.isRepetition = false) (rest : Spells p w) :
      Spells (i :: p) (i :: w)
  | gather {n : Nonterminal} {p u w : List Item} (repeats : n.isRepetition = true)
      (fits : (rule n).Fits sameItem u) (rest : Spells p w) :
      Spells (⟨.nonterminal n, none⟩ :: p) (u ++ w)

/-- No item of an expression is a repetition, and all that it repeats has a repetition. -/
def regular : Rule → Bool
  | .never | .done => true
  | .one i => !i.isRepetition
  | .alt r s => regular r && regular s
  | .many r => regular r && (repetition? r).isSome
  | .seq r s => regular r && regular s

theorem regular_rule (n : Nonterminal) : regular (rule n) = true := by
  cases n <;> decide +kernel

theorem Spells.append {p q u v : List Item} (hp : Spells p u) (hq : Spells q v) :
    Spells (p ++ q) (u ++ v) := by
  induction hp with
  | nil => exact hq
  | single plain _ ih => exact .single plain ih
  | gather repeats fits _ ih =>
    rw [List.append_assoc]
    exact .gather repeats fits ih

theorem spells_append_iff {p q w : List Item} :
    Spells (p ++ q) w ↔ ∃ u v, w = u ++ v ∧ Spells p u ∧ Spells q v := by
  constructor
  · intro h
    induction p generalizing w with
    | nil => exact ⟨[], w, rfl, .nil, h⟩
    | cons i p ih =>
      cases h with
      | single plain rest =>
        obtain ⟨u, v, rfl, hu, hv⟩ := ih rest
        exact ⟨i :: u, v, rfl, .single plain hu, hv⟩
      | gather repeats fits rest =>
        obtain ⟨u, v, rfl, hu, hv⟩ := ih rest
        exact ⟨_, v, (List.append_assoc ..).symm, .gather repeats fits hu, hv⟩
  · rintro ⟨u, v, rfl, hu, hv⟩
    exact hu.append hv

@[simp] theorem spells_nil_iff {w : List Item} : Spells [] w ↔ w = [] := by
  constructor
  · intro h
    cases h
    rfl
  · rintro rfl
    exact .nil

theorem spells_one_iff {i : Item} (plain : i.isRepetition = false) {w : List Item} :
    Spells [i] w ↔ w = [i] := by
  constructor
  · intro h
    cases h with
    | single _ rest => rw [spells_nil_iff.1 rest]
    | gather repeats _ _ => simp [Item.isRepetition, repeats] at plain
  · rintro rfl
    exact .single plain .nil

/-- Alternatives of a sequence spell what the alternatives of its parts spell, one after the other. -/
theorem exists_spells_seq_iff {a b : List (List Item)} {w : List Item} :
    (∃ p ∈ a.flatMap fun u => b.map (u ++ ·), Spells p w) ↔
      ∃ u v, w = u ++ v ∧ (∃ p ∈ a, Spells p u) ∧ ∃ q ∈ b, Spells q v := by
  constructor
  · rintro ⟨pq, hpq, h⟩
    obtain ⟨p, hp, hm⟩ := List.mem_flatMap.1 hpq
    obtain ⟨q, hq, rfl⟩ := List.mem_map.1 hm
    obtain ⟨u, v, rfl, hu, hv⟩ := spells_append_iff.1 h
    exact ⟨u, v, rfl, ⟨p, hp, hu⟩, q, hq, hv⟩
  · rintro ⟨u, v, rfl, ⟨p, hp, hu⟩, q, hq, hv⟩
    exact ⟨p ++ q, List.mem_flatMap.2 ⟨p, hp, List.mem_map_of_mem hq⟩, hu.append hv⟩

theorem rule_of_repetition? {r : Rule} {n : Nonterminal} (h : repetition? r = some n) :
    n.isRepetition = true ∧ rule n = .oneOrMore r := by
  have hn := List.find?_some h
  simpa using hn

theorem spells_repeated_iff {r : Rule} (h : (repetition? r).isSome = true) {w : List Item} :
    (∃ p ∈ repeated r, Spells p w) ↔ (Regular.oneOrMore r).Fits sameItem w := by
  obtain ⟨n, hn⟩ := Option.isSome_iff_exists.mp h
  obtain ⟨hr, he⟩ := rule_of_repetition? hn
  simp only [repeated, hn, Option.toList_some, List.map_cons, List.map_nil, List.mem_singleton,
    exists_eq_left]
  constructor
  · intro hs
    cases hs with
    | single plain _ => simp [Item.isRepetition, hr] at plain
    | gather _ fits rest =>
      cases rest
      rw [List.append_nil, ← he]
      exact fits
  · intro hf
    rw [← he] at hf
    simpa using Spells.gather hr hf .nil

theorem fits_many_iff {r : Rule} {w : List Item} :
    (Regular.many r).Fits sameItem w ↔ w = [] ∨ (Regular.oneOrMore r).Fits sameItem w := by
  constructor
  · intro h
    cases h with
    | manyNil => exact .inl rfl
    | manyCons hr hs => exact .inr (.seq hr hs)
  · rintro (rfl | h)
    · exact .manyNil
    · obtain ⟨u, v, rfl, hr, hs⟩ := Regular.fits_seq_iff.1 h
      exact .manyCons hr hs

theorem sameItem_iff {a b : Item} : sameItem a b = true ↔ a = b := by
  simp [sameItem]

theorem fits_iff_alternative {r : Rule} (hr : regular r = true) {w : List Item} :
    r.Fits sameItem w ↔ ∃ p ∈ alternatives r, Spells p w := by
  induction r generalizing w with
  | never => exact ⟨fun h => absurd h Regular.fits_never, by simp [alternatives]⟩
  | done =>
    simp only [alternatives, List.mem_singleton, exists_eq_left, spells_nil_iff]
    constructor
    · intro h
      cases h
      rfl
    · rintro rfl
      exact .done
  | one i =>
    have plain : i.isRepetition = false := by simpa [regular] using hr
    simp only [alternatives, List.mem_singleton, exists_eq_left, spells_one_iff plain]
    constructor
    · intro h
      cases h with
      | one hb => rw [sameItem_iff.1 hb]
    · rintro rfl
      exact .one (sameItem_iff.2 rfl)
  | alt r s ihr ihs =>
    simp only [regular, Bool.and_eq_true] at hr
    rw [Regular.fits_alt_iff, ihr hr.1, ihs hr.2]
    simp only [alternatives, List.mem_append, or_and_right, exists_or]
  | many r _ =>
    simp only [regular, Bool.and_eq_true] at hr
    rw [fits_many_iff, ← spells_repeated_iff hr.2]
    simp only [alternatives, List.mem_cons, or_and_right, exists_or, exists_eq_left, spells_nil_iff]
  | seq r s ihr ihs =>
    simp only [regular, Bool.and_eq_true] at hr
    unfold alternatives
    split
    · next he =>
      subst he
      have hm := hr.2
      simp only [regular, Bool.and_eq_true] at hm
      rw [spells_repeated_iff hm.2]
      exact Iff.rfl
    · rw [Regular.fits_seq_iff, exists_spells_seq_iff]
      simp only [ihr hr.1, ihs hr.2]

theorem fits_oneOrMore_of_fits {r : Rule} {w : List Item} (h : r.Fits sameItem w) :
    (Regular.oneOrMore r).Fits sameItem w := by
  have hs := Regular.Fits.seq h (Regular.Fits.manyNil (r := r))
  rwa [List.append_nil] at hs

theorem fits_many_snoc {r : Rule} {u v : List Item} (hu : (Regular.many r).Fits sameItem u)
    (hv : r.Fits sameItem v) : (Regular.oneOrMore r).Fits sameItem (u ++ v) := by
  generalize hm : Regular.many r = m at hu
  induction hu with
  | manyNil => exact fits_oneOrMore_of_fits hv
  | manyCons ha _ _ ih =>
    cases hm
    rw [List.append_assoc]
    exact .seq ha (fits_many_iff.2 (.inr (ih rfl)))
  | _ => cases hm

theorem fits_many_unsnoc {r : Rule} {u : List Item} (hu : (Regular.many r).Fits sameItem u) :
    u = [] ∨ ∃ a b, u = a ++ b ∧ (Regular.many r).Fits sameItem a ∧ r.Fits sameItem b := by
  generalize hm : Regular.many r = m at hu
  induction hu with
  | manyNil => exact .inl rfl
  | @manyCons _ a _ ha _ _ ih =>
    cases hm
    right
    rcases ih rfl with rfl | ⟨c, d, rfl, hc, hd⟩
    · exact ⟨[], a, by simp, .manyNil, ha⟩
    · exact ⟨a ++ c, d, (List.append_assoc ..).symm, .manyCons ha hc, hd⟩
  | _ => cases hm

/-- A repetition can be taken apart at its last item. -/
theorem fits_oneOrMore_iff {r : Rule} {w : List Item} :
    (Regular.oneOrMore r).Fits sameItem w ↔ r.Fits sameItem w ∨
      ∃ u v, w = u ++ v ∧ (Regular.oneOrMore r).Fits sameItem u ∧ r.Fits sameItem v := by
  constructor
  · intro h
    obtain ⟨u, v, rfl, hu, hv⟩ := Regular.fits_seq_iff.1 h
    rcases fits_many_unsnoc hv with rfl | ⟨a, b, rfl, ha, hb⟩
    · exact .inl (by simpa using hu)
    · exact .inr ⟨u ++ a, b, (List.append_assoc ..).symm, .seq hu ha, hb⟩
  · rintro (h | ⟨u, v, rfl, hu, hv⟩)
    · exact fits_oneOrMore_of_fits h
    · exact fits_many_snoc (fits_many_iff.2 (.inr hu)) hv

theorem rule_of_isRepetition {n : Nonterminal} (h : n.isRepetition = true) :
    ∃ r, rule n = .oneOrMore r := by
  cases n <;> first | exact ⟨_, rfl⟩ | cases h

/-- The children of a phrase follow its rule exactly when a production spells them. -/
theorem fits_rule_iff {n : Nonterminal} {w : List Item} :
    (rule n).Fits sameItem w ↔ ∃ p ∈ productions n, Spells p w := by
  by_cases hn : n.isRepetition = true
  · obtain ⟨r, hr⟩ := rule_of_isRepetition hn
    have hreg := regular_rule n
    rw [hr, Regular.oneOrMore] at hreg
    simp only [regular, Bool.and_eq_true] at hreg
    have he : productions n =
        alternatives r ++ (alternatives r).map (⟨.nonterminal n, none⟩ :: ·) := by
      simp only [productions, hn, hr, Regular.oneOrMore, if_true]
    rw [he, hr, fits_oneOrMore_iff, fits_iff_alternative hreg.1]
    simp only [List.mem_append, or_and_right, exists_or]
    refine or_congr_right ⟨?_, ?_⟩
    · rintro ⟨u, v, rfl, hu, hv⟩
      obtain ⟨p, hp, hs⟩ := (fits_iff_alternative hreg.1).1 hv
      rw [← hr] at hu
      exact ⟨_, List.mem_map.2 ⟨p, hp, rfl⟩, .gather hn hu hs⟩
    · rintro ⟨q, hq, hs⟩
      obtain ⟨p, hp, rfl⟩ := List.mem_map.1 hq
      cases hs with
      | single plain _ => simp [Item.isRepetition, hn] at plain
      | gather _ fits rest =>
        rw [hr] at fits
        exact ⟨_, _, rfl, fits, (fits_iff_alternative hreg.1).2 ⟨p, hp, rest⟩⟩
  · have he : productions n = alternatives (rule n) := by
      simp only [productions, hn]
      rfl
    rw [he]
    exact fits_iff_alternative (regular_rule n)

end Numscript.Grammar
