import Mathlib.Data.List.Sort
import Numscript.Proofs.Highlight.Marks
import Numscript.Proofs.Tree.Ends
import Numscript.Proofs.Tree.Inside

/-!
# Highlighting

The query marks every token of a valid program once, with two exceptions: the name of a builtin function is
also a keyword, and so is a share that takes what remains, along with its only token. Which pattern marks a
token depends on its symbol, its field, and the symbol of its parent, so the rules of the grammar tell it.
-/
namespace Numscript

namespace Highlight

open Grammar (Item unaliased)
open Node (edges mem_edges mem_inside_of_mem_edges filter_eq_singleton leaves_perm edges_apart)

/-- Whether a symbol shows a token. -/
def isToken (s : Symbol) : Bool :=
  match unaliased s with
  | .terminal _ => true
  | _ => false

/-- The hues of a token. -/
def tokenHues (s : Symbol) : List (Nat × String) := if isToken s then ownHues s else []

/-- The hues of a phrase. -/
def phraseHues (s : Symbol) : List (Nat × String) := if isToken s then [] else ownHues s

/-- The marks on a child of a node: those of the node, those that it has as a child, and its own. -/
def marksOn (p c : Node) : List Mark :=
  marked p.label (phraseHues p.symbol) ++ (marked c.label (heldHues p.symbol c.symbol c.field) ++
    marked c.label (tokenHues c.symbol))

/-- The marks with the span of a label. -/
def spanned (l : Label) (marks : List Mark) : List Mark :=
  marks.filter fun m => m.label.start = l.start && m.label.stop = l.stop

/-! ### The marks of a tree -/

theorem marked_own (n : Node) : marked n.label (ownHues n.symbol) =
    marked n.label (phraseHues n.symbol) ++ marked n.label (tokenHues n.symbol) := by
  rw [phraseHues, tokenHues]
  split
  · rfl
  · exact (List.append_nil _).symm

/-- The mark of a node with a single child counts as one on the child. -/
theorem marksOn_perm {p : Node} (only : phraseHues p.symbol = [] ∨ ∃ c, p.children = [c]) :
    (marked p.label (phraseHues p.symbol) ++
      ((p.children.flatMap fun c => marked c.label (heldHues p.symbol c.symbol c.field)) ++
        p.children.flatMap fun c => marked c.label (tokenHues c.symbol))).Perm
      (p.children.flatMap (marksOn p)) := by
  rcases only with hnone | ⟨c, hc⟩
  · have hmarks : marksOn p = fun c => marked c.label (heldHues p.symbol c.symbol c.field) ++
        marked c.label (tokenHues c.symbol) := by
      funext c
      rw [marksOn, hnone]
      rfl
    rw [hmarks, hnone]
    exact List.flatMap_append_perm _ _ _
  · simp [hc, marksOn]

/-- The marks on a tree are those on the children of its nodes, if a phrase is marked only where it has a
single child. -/
theorem marksBelow_perm {root : Node} (plain : tokenHues root.symbol = [])
    (only : ∀ p ∈ root :: root.inside, phraseHues p.symbol = [] ∨ ∃ c, p.children = [c]) :
    (marksBelow patterns.zipIdx root).Perm ((edges root).flatMap fun e => marksOn e.1 e.2) := by
  have htokens : ((root :: root.inside).flatMap fun n => marked n.label (tokenHues n.symbol)).Perm
      ((root :: root.inside).flatMap fun p =>
        p.children.flatMap fun c => marked c.label (tokenHues c.symbol)) := by
    rw [List.flatMap_cons, plain, ← List.flatMap_assoc]
    exact root.inside_perm_children.flatMap_right _
  have hedges : (edges root).flatMap (fun e => marksOn e.1 e.2) =
      (root :: root.inside).flatMap fun p => p.children.flatMap (marksOn p) := by
    rw [edges, List.flatMap_assoc]
    exact List.flatMap_congr fun p _ => List.flatMap_map ..
  rw [marksBelow_eq, hedges]
  have hown : ((root :: root.inside).flatMap (marksOf patterns.zipIdx)).Perm
      ((root :: root.inside).flatMap fun p => marked p.label (tokenHues p.symbol) ++
        (marked p.label (phraseHues p.symbol) ++
          p.children.flatMap fun c => marked c.label (heldHues p.symbol c.symbol c.field))) := by
    refine .flatMap_left _ fun p _ => (marksOf_perm p).trans ?_
    rw [marked_own, List.append_assoc]
    exact List.perm_append_comm_assoc _ _ _
  have hmoved := (List.flatMap_append_perm (root :: root.inside) _ _).symm.trans (htokens.append_right
    ((root :: root.inside).flatMap fun p => marked p.label (phraseHues p.symbol) ++
      p.children.flatMap fun c => marked c.label (heldHues p.symbol c.symbol c.field)))
  refine (hown.trans hmoved).trans ((List.flatMap_append_perm _ _ _).trans
    (.flatMap_left _ fun p hp => .trans ?_ (marksOn_perm (only p hp))))
  rw [← List.append_assoc (marked _ _)]
  exact List.perm_append_comm

/-! ### The marks on a leaf -/

theorem flatMap_ite {α β : Type} (P : α → Bool) (f : α → List β) (l : List α) :
    (l.flatMap fun a => if P a then f a else []) = (l.filter P).flatMap f := by
  induction l with
  | nil => rfl
  | cons a l ih =>
    rw [List.flatMap_cons, ih]
    cases ha : P a <;> simp [ha]

/-- A tree whose marks are found on its edges: only leaves are marked, each with its own span. -/
structure Traced (root : Node) : Prop where
  plain : root.isLeaf = false
  order : Label.InOrder root.leaves
  marks : (marksBelow patterns.zipIdx root).Perm ((edges root).flatMap fun e => marksOn e.1 e.2)
  unmarked : ∀ e ∈ edges root, e.2.isLeaf = false → marksOn e.1 e.2 = []
  spans : ∀ e ∈ edges root, ∀ m ∈ marksOn e.1 e.2,
    m.label.start = e.2.label.start ∧ m.label.stop = e.2.label.stop

theorem Traced.spanned_perm {root p c : Node} (h : Traced root) (mem : (p, c) ∈ edges root)
    (leaf : c.isLeaf = true) : (spanned c.label (captures root)).Perm (marksOn p c) := by
  obtain ⟨plain, order, marks, unmarked, spans⟩ := h
  have hsorted := ((List.mergeSort_perm (marksBelow patterns.zipIdx root) Mark.before).trans marks).filter
    fun m => m.label.start = c.label.start && m.label.stop = c.label.stop
  refine hsorted.trans (List.Perm.of_eq ?_)
  have hedge : ∀ e ∈ edges root, (marksOn e.1 e.2).filter
      (fun m => m.label.start = c.label.start && m.label.stop = c.label.stop) =
        if e.2.isLeaf && (e.2.label.start = c.label.start && e.2.label.stop = c.label.stop)
        then marksOn e.1 e.2 else [] := by
    intro e he
    cases hleaf : e.2.isLeaf with
    | false => simp [unmarked e he hleaf]
    | true =>
      have hsame : ∀ m ∈ marksOn e.1 e.2,
          (decide (m.label.start = c.label.start) && decide (m.label.stop = c.label.stop)) =
            (decide (e.2.label.start = c.label.start) && decide (e.2.label.stop = c.label.stop)) := by
        intro m hm
        rw [(spans e he m hm).1, (spans e he m hm).2]
      rw [List.filter_congr hsame, Bool.true_and]
      split
      · next h => exact List.filter_eq_self.2 fun _ _ => h
      · next h => exact List.filter_eq_nil_iff.2 fun _ _ => h
  have hone := filter_eq_singleton (P := fun e => e.2.isLeaf &&
    (e.2.label.start = c.label.start && e.2.label.stop = c.label.stop)) mem (by simp [leaf])
    ((edges_apart plain order).imp fun {a b} hab hboth => by
      simp only [Bool.and_eq_true, decide_eq_true_eq] at hboth
      exact hab hboth.1.1 hboth.2.1 (hboth.1.2.1.trans hboth.2.2.1.symm))
  rw [List.filter_flatMap, List.flatMap_congr hedge, flatMap_ite, hone]
  simp

/-! ### The order of marks -/

theorem Mark.before_iff {a b : Mark} : a.before b = true ↔
    a.label.start.byte < b.label.start.byte ∨ a.label.start.byte = b.label.start.byte ∧
      (a.label.stop.byte < b.label.stop.byte ∨ a.label.stop.byte = b.label.stop.byte ∧
        (a.pattern < b.pattern ∨ a.pattern = b.pattern ∧ a.name ≤ b.name)) := by
  unfold Mark.before
  grind

theorem Mark.before_trans (a b c : Mark) (hab : a.before b = true) (hbc : b.before c = true) :
    a.before c = true := by
  rw [Mark.before_iff] at *
  have hname : a.name ≤ b.name → b.name ≤ c.name → a.name ≤ c.name := fun h h' => String.le_trans h h'
  grind

theorem Mark.before_total (a b : Mark) : (a.before b || b.before a) = true := by
  rw [Bool.or_eq_true, Mark.before_iff, Mark.before_iff]
  have hname := String.le_total a.name b.name
  grind

/-- The marks with a span are listed by the numbers of their patterns. -/
theorem spanned_eq_of_perm {root : Node} {l : Label} {marks : List Mark}
    (perm : (spanned l (captures root)).Perm marks)
    (rising : marks.Pairwise fun a b => a.pattern < b.pattern) : spanned l (captures root) = marks := by
  have hspan : ∀ m ∈ marks, m.label.start = l.start ∧ m.label.stop = l.stop := by
    intro m hm
    have hmem := (List.mem_filter.1 (perm.mem_iff.2 hm)).2
    simpa using hmem
  have hsorted : (spanned l (captures root)).Pairwise fun a b => a.before b = true :=
    (List.pairwise_mergeSort Mark.before_trans Mark.before_total _).filter _
  have hmarks : marks.Pairwise fun a b => a.before b = true := by
    refine rising.imp_of_mem fun {a b} ha hb hab => Mark.before_iff.2 ?_
    rw [(hspan a ha).1, (hspan a ha).2, (hspan b hb).1, (hspan b hb).2]
    exact .inr ⟨rfl, .inr ⟨rfl, .inl hab⟩⟩
  refine perm.eq_of_pairwise (fun a b ha hb hab hba => ?_) hsorted hmarks
  have ha := perm.mem_iff.1 ha
  have hpattern : a.pattern = b.pattern := by
    rw [Mark.before_iff] at hab hba
    rw [(hspan a ha).1, (hspan a ha).2, (hspan b hb).1, (hspan b hb).2] at hab hba
    omega
  have hnodup : (marks.map Mark.pattern).Nodup :=
    List.pairwise_map.2 (rising.imp fun hab => Nat.ne_of_lt hab)
  exact List.inj_on_of_nodup_map hnodup ha hb hpattern

/-- The marks with the span of a leaf, in order. -/
theorem Traced.spanned_eq {root p c : Node} (h : Traced root) (mem : (p, c) ∈ edges root)
    (leaf : c.isLeaf = true) (rising : (marksOn p c).Pairwise fun a b => a.pattern < b.pattern) :
    spanned c.label (captures root) = marksOn p c :=
  spanned_eq_of_perm (h.spanned_perm mem leaf) rising

/-! ### The hues of the rules -/

theorem phraseHues_eq : ∀ x ∈ Symbol.all, phraseHues x =
    if x = .nonterminal .remainingAllotment then [(14, "keyword")] else [] := by
  decide +kernel

/-- What marks a token in a role, apart from its parent. -/
def hues (x : Symbol) (i : Item) : List (Nat × String) :=
  heldHues x i.symbol i.field ++ tokenHues i.symbol

/-- Whether a token in a role is the name of a builtin function. -/
def isBuiltin (x : Symbol) (i : Item) : Bool :=
  x = .nonterminal .functionCall && i.symbol = .terminal .kwOverdraft

/-- What marks a child of a phrase, by its role and what the phrase is. -/
@[mk_iff]
structure Painted (x : Symbol) (i : Item) : Prop where
  phrase : isToken i.symbol = false → hues x i = []
  share : x = .nonterminal .remainingAllotment → i = ⟨.terminal .kwRemaining, none⟩
  remaining : i.symbol = .terminal .kwRemaining → hues x i = [(15, "keyword")]
  builtin : isBuiltin x i = true → i.field = some .name ∧
    hues x i = [(12, "function.builtin"), (15, "keyword")]
  single : isToken i.symbol = true → isBuiltin x i = false → (hues x i).length = 1
  identifier : i.symbol = .terminal .identifier →
    x = .nonterminal .varDeclaration ∧ i.field = some .type ∧ hues x i = [(10, "type")] ∨
      x = .nonterminal .functionCall ∧ i.field = some .name ∧ hues x i = [(11, "function.call")]
  varName : unaliased i.symbol = .terminal .variableName →
    hues x i = [(if x = .nonterminal .accountLiteralPart then 9 else 8, "variable")]
  atSign : i.symbol = .terminal .atSign → hues x i = [(6, "punctuation.special")]

set_option synthInstance.maxSize 400 in
instance (x : Symbol) (i : Item) : Decidable (Painted x i) := decidable_of_iff' _ (painted_iff x i)

theorem painted_of_letter : ∀ x ∈ Symbol.all, ∀ r ∈ NodeType.rule? x, ∀ i ∈ r.letters, Painted x i := by
  decide +kernel

theorem hues_comment {t : Terminal} (comment : t.isComment = true) (x : Symbol) (f : Option Field) :
    (hues x ⟨.terminal t, f⟩).length = 1 := by
  have hboth : ∀ r ∈ rules, r.1.child? ≠ some (.terminal .lineComment) ∧
      r.1.child? ≠ some (.terminal .multilineComment) := by
    decide
  have hown : tokenHues (.terminal .lineComment) = [(0, "comment")] ∧
      tokenHues (.terminal .multilineComment) = [(1, "comment")] := by
    decide
  have hnone {s : Symbol} (hs : ∀ r ∈ rules, r.1.child? ≠ some s) : heldHues x s f = [] :=
    List.flatMap_eq_nil_iff.2 fun r hr => by rw [Query.Rule.onChild_eq_zero (hs r hr)]; rfl
  obtain rfl | rfl : t = .lineComment ∨ t = .multilineComment := by
    cases t <;> first | exact .inl rfl | exact .inr rfl | cases comment
  · rw [hues, hnone fun r hr => (hboth r hr).1, hown.1]
    rfl
  · rw [hues, hnone fun r hr => (hboth r hr).2, hown.2]
    rfl

/-! ### The marks on valid programs -/

/-- The children of the nodes of a valid program are comments, or have roles that the rules allow. -/
theorem exists_role_of_valid (bytes : List UInt8) {root : Node}
    (h : Program.ofBytes bytes = .valid root) {p c : Node} (hp : p ∈ root :: root.inside)
    (hc : c ∈ p.children) : p.symbol ∈ Symbol.all ∧
      ((∃ t, t.isComment = true ∧ c.symbol = .terminal t) ∨ Painted p.symbol ⟨c.symbol, c.field⟩) := by
  obtain ⟨r, hrule, hfits, _⟩ := follows_of_valid bytes h p hp
  have hx := NodeType.mem_all_of_rule? hrule
  refine ⟨hx, ?_⟩
  cases hcomment : c.isComment with
  | true =>
    rw [Node.isComment, Bool.or_eq_true, decide_eq_true_eq, decide_eq_true_eq] at hcomment
    exact .inl (hcomment.elim (fun hline => ⟨_, rfl, hline⟩) fun hblock => ⟨_, rfl, hblock⟩)
  | false =>
    have hitem : (⟨c.symbol, c.field⟩ : Item) ∈ Node.items p.children :=
      List.mem_map.2 ⟨c, List.mem_filter.2 ⟨hc, by simp [hcomment]⟩, rfl⟩
    obtain ⟨i, hi, hsame⟩ := Regular.exists_letter hfits hitem
    obtain rfl : i = ⟨c.symbol, c.field⟩ := of_decide_eq_true hsame
    exact .inr (painted_of_letter p.symbol hx r hrule _ hi)

theorem isLeaf_eq_of_valid (bytes : List UInt8) {root : Node} (h : Program.ofBytes bytes = .valid root)
    {n : Node} (hn : n ∈ root.inside) : n.isLeaf = isToken n.symbol := by
  rcases plainEnds_of_valid bytes h n hn with ⟨⟨t, ht⟩, hnone⟩ | ⟨⟨phrase, hphrase⟩, hends⟩
  · rw [isToken, ht, Node.isLeaf, hnone]
    cases hsymbol : n.symbol <;> simp_all [unaliased]
  · rw [isToken, hphrase, Node.isLeaf, Bool.and_eq_false_iff]
    exact .inl (by simpa using hends.inhabited)

/-- A child that is no comment has a role that the rules allow. -/
theorem painted_of_valid (bytes : List UInt8) {root : Node}
    (h : Program.ofBytes bytes = .valid root) {p c : Node} (hp : p ∈ root :: root.inside)
    (hc : c ∈ p.children) (plain : c.isComment = false) : Painted p.symbol ⟨c.symbol, c.field⟩ := by
  rcases (exists_role_of_valid bytes h hp hc).2 with ⟨t, ht, hsymbol⟩ | hpainted
  · rw [Node.isComment, hsymbol] at plain
    rw [Terminal.isComment_eq] at ht
    simp_all
  · exact hpainted

/-- A share that takes what remains spans its token, which is its only child. -/
theorem only_of_valid (bytes : List UInt8) {root : Node} (h : Program.ofBytes bytes = .valid root)
    {p : Node} (hp : p ∈ root :: root.inside) (share : p.symbol = .nonterminal .remainingAllotment) :
    ∃ c, p.children = [c] ∧ c.symbol = .terminal .kwRemaining ∧
      p.label.start = c.label.start ∧ p.label.stop = c.label.stop := by
  obtain ⟨r, hrule, hfits, hextras⟩ := follows_of_valid bytes h p hp
  rw [share] at hrule
  obtain rfl := Option.some.inj hrule
  have hitems : Node.items p.children = [⟨.terminal .kwRemaining, none⟩] := by
    generalize Node.items p.children = items at hfits
    cases hfits with
    | one hsame => rw [← of_decide_eq_true hsame]
  obtain ⟨c, hfilter, hc⟩ := List.map_eq_singleton_iff.1 hitems
  rcases List.mem_cons.1 hp with rfl | hp
  · rw [(root_of_valid bytes h).1] at share
    cases share
  rcases plainEnds_of_valid bytes h p hp with ⟨⟨t, ht⟩, _⟩ | ⟨_, hends⟩
  · rw [share] at ht
    cases ht
  have honly : p.children = [c] := by
    refine hends.eq_singleton ?_
    rw [← hfilter]
    exact List.filter_congr fun d hd => by rw [hextras d hd]
  refine ⟨c, honly, congrArg Item.symbol hc, ?_⟩
  rcases (spanned_inside_of_valid bytes h p hp).1.spans with ⟨hnone, _⟩ | ⟨first, last, hfirst, hlast, hspan⟩
  · exact absurd hnone hends.inhabited
  · rw [honly] at hfirst hlast
    obtain rfl := Option.some.inj hfirst
    obtain rfl := Option.some.inj hlast
    exact hspan

theorem marksOn_eq (p c : Node) : marksOn p c =
    marked p.label (phraseHues p.symbol) ++ marked c.label (hues p.symbol ⟨c.symbol, c.field⟩) := by
  rw [marksOn, hues, marked, marked, marked, marked, List.map_append]

theorem phraseHues_of_ne {x : Symbol} (hx : x ∈ Symbol.all) (other : x ≠ .nonterminal .remainingAllotment) :
    phraseHues x = [] := by
  rw [phraseHues_eq x hx, if_neg other]

theorem traced_of_valid (bytes : List UInt8) {root : Node} (h : Program.ofBytes bytes = .valid root) :
    Traced root := by
  have hsymbol := (root_of_valid bytes h).1
  have hall : ∀ p ∈ root :: root.inside, p.symbol ∈ Symbol.all := fun p hp => by
    obtain ⟨r, hrule, _⟩ := follows_of_valid bytes h p hp
    exact NodeType.mem_all_of_rule? hrule
  refine ⟨?_, (leaves_of_valid bytes h).1, marksBelow_perm ?_ fun p hp => ?_, ?_, ?_⟩
  · rw [Node.isLeaf, hsymbol, Bool.and_false]
  · rw [hsymbol]
    rfl
  · by_cases hshare : p.symbol = .nonterminal .remainingAllotment
    · obtain ⟨c, hc, _⟩ := only_of_valid bytes h hp hshare
      exact .inr ⟨c, hc⟩
    · exact .inl (phraseHues_of_ne (hall p hp) hshare)
  · rintro ⟨p, c⟩ he hleaf
    obtain ⟨hp, hc⟩ := mem_edges.1 he
    rw [isLeaf_eq_of_valid bytes h (mem_inside_of_mem_edges he)] at hleaf
    obtain ⟨hx, ⟨t, _, ht⟩ | hpainted⟩ := exists_role_of_valid bytes h hp hc
    · rw [ht] at hleaf
      cases hleaf
    · have hother : p.symbol ≠ .nonterminal .remainingAllotment := fun hshare => by
        have hword : c.symbol = .terminal .kwRemaining := congrArg Item.symbol (hpainted.share hshare)
        rw [hword] at hleaf
        cases hleaf
      rw [marksOn_eq, phraseHues_of_ne hx hother, hpainted.phrase hleaf]
      rfl
  · rintro ⟨p, c⟩ he m hm
    obtain ⟨hp, hc⟩ := mem_edges.1 he
    rw [marksOn_eq] at hm
    rcases List.mem_append.1 hm with hm | hm
    · obtain ⟨hue, hhue, rfl⟩ := List.mem_map.1 hm
      have hshare : p.symbol = .nonterminal .remainingAllotment := by
        by_contra hother
        rw [phraseHues_of_ne (hall p hp) hother] at hhue
        cases hhue
      obtain ⟨d, hd, _, hspan⟩ := only_of_valid bytes h hp hshare
      rw [hd] at hc
      obtain rfl := List.mem_singleton.1 hc
      exact hspan
    · obtain ⟨hue, _, rfl⟩ := List.mem_map.1 hm
      exact ⟨rfl, rfl⟩

/-- Under a share that takes what remains, there is nothing but its token. -/
theorem ne_share_of_valid (bytes : List UInt8) {root : Node} (h : Program.ofBytes bytes = .valid root)
    {p c : Node} (hp : p ∈ root :: root.inside) (hc : c ∈ p.children)
    (other : c.symbol ≠ .terminal .kwRemaining) : p.symbol ≠ .nonterminal .remainingAllotment := by
  intro hshare
  obtain ⟨d, hd, hword, _⟩ := only_of_valid bytes h hp hshare
  rw [hd] at hc
  obtain rfl := List.mem_singleton.1 hc
  exact other hword

/-- The marks with the span of a token, in order. -/
theorem spanned_of_valid (bytes : List UInt8) {root : Node} (h : Program.ofBytes bytes = .valid root)
    {p c : Node} (hp : p ∈ root :: root.inside) (hc : c ∈ p.children) (token : isToken c.symbol = true)
    {marks : List Mark} (eq : marksOn p c = marks)
    (rising : marks.Pairwise fun a b => a.pattern < b.pattern) : spanned c.label (captures root) = marks := by
  have he := mem_edges.2 ⟨hp, hc⟩
  rw [← eq] at rising ⊢
  refine (traced_of_valid bytes h).spanned_eq he ?_ rising
  rw [isLeaf_eq_of_valid bytes h (mem_inside_of_mem_edges he), token]

/-- The marks with the span of a token whose parent is not marked. -/
theorem spanned_of_hues (bytes : List UInt8) {root : Node} (h : Program.ofBytes bytes = .valid root)
    {p c : Node} (hp : p ∈ root :: root.inside) (hc : c ∈ p.children) (token : isToken c.symbol = true)
    (other : p.symbol ≠ .nonterminal .remainingAllotment) {l : List (Nat × String)}
    (eq : hues p.symbol ⟨c.symbol, c.field⟩ = l) (rising : l.Pairwise fun a b => a.1 < b.1) :
    spanned c.label (captures root) = marked c.label l := by
  have hx := (exists_role_of_valid bytes h hp hc).1
  refine spanned_of_valid bytes h hp hc token ?_ (List.pairwise_map.2 rising)
  rw [marksOn_eq, phraseHues_of_ne hx other, eq]
  rfl

theorem isLeaf_of_valid (bytes : List UInt8) {root : Node} (h : Program.ofBytes bytes = .valid root)
    {n : Node} (hn : n ∈ root.inside) (none : n.children = []) : n.isLeaf = true := by
  rcases plainEnds_of_valid bytes h n hn with ⟨⟨t, ht⟩, _⟩ | ⟨_, hends⟩
  · rw [isLeaf_eq_of_valid bytes h hn, isToken, ht]
  · exact absurd none hends.inhabited

/-- A token has one hue but for its parent, unless it is the name of a builtin function. -/
theorem hues_single_of_valid (bytes : List UInt8) {root : Node} (h : Program.ofBytes bytes = .valid root)
    {p c : Node} (hp : p ∈ root :: root.inside) (hc : c ∈ p.children) (token : isToken c.symbol = true)
    (other : ¬(p.symbol = .nonterminal .functionCall ∧ c.field = some .name ∧
      c.symbol = .terminal .kwOverdraft)) : (hues p.symbol ⟨c.symbol, c.field⟩).length = 1 := by
  rcases (exists_role_of_valid bytes h hp hc).2 with ⟨t, ht, hsymbol⟩ | hpainted
  · rw [hsymbol]
    exact hues_comment ht _ _
  · refine hpainted.single token ?_
    cases hbuiltin : isBuiltin p.symbol ⟨c.symbol, c.field⟩ with
    | false => rfl
    | true =>
      have hfield := (hpainted.builtin hbuiltin).1
      rw [isBuiltin, Bool.and_eq_true, decide_eq_true_eq, decide_eq_true_eq] at hbuiltin
      exact absurd ⟨hbuiltin.1, hfield, hbuiltin.2⟩ other

end Highlight

open Highlight
open Node (mem_edges mem_inside_of_mem_edges leaves_perm)

/-- How the query marks the leaves of a program. -/
structure Highlighted (root : Node) : Prop where
  /-- Whatever is marked has the span of a leaf. -/
  onLeaves : ∀ m ∈ captures root, ∃ l ∈ root.leaves, m.label.start = l.start ∧ m.label.stop = l.stop
  /-- Every leaf is a child without children. -/
  leaves : ∀ l ∈ root.leaves, ∃ p ∈ root :: root.inside, ∃ c ∈ p.children,
    c.children = [] ∧ c.label = l
  /-- One mark has the span of a leaf, with two exceptions. -/
  single : ∀ p ∈ root :: root.inside, ∀ c ∈ p.children, c.children = [] →
    ¬(p.symbol = .nonterminal .functionCall ∧ c.field = some .name ∧
      c.symbol = .terminal .kwOverdraft) →
    ¬(p.symbol = .nonterminal .remainingAllotment ∧ c.symbol = .terminal .kwRemaining) →
    ∃ i name, spanned c.label (captures root) = [⟨i, name, c.label⟩]
  /-- The name of a builtin function is marked for that and as a keyword. -/
  builtin : ∀ p ∈ root :: root.inside, ∀ c ∈ p.children, p.symbol = .nonterminal .functionCall →
    c.symbol = .terminal .kwOverdraft →
    spanned c.label (captures root) = [⟨12, "function.builtin", c.label⟩, ⟨15, "keyword", c.label⟩]
  /-- A share that takes what remains is marked along with its token. -/
  share : ∀ p ∈ root :: root.inside, ∀ c ∈ p.children, p.symbol = .nonterminal .remainingAllotment →
    c.symbol = .terminal .kwRemaining →
    spanned c.label (captures root) = [⟨14, "keyword", p.label⟩, ⟨15, "keyword", c.label⟩]
  /-- An identifier is the type of a variable or the name of a function. -/
  identifier : ∀ p ∈ root :: root.inside, ∀ c ∈ p.children, c.symbol = .terminal .identifier →
    p.symbol = .nonterminal .varDeclaration ∧ c.field = some .type ∧
        spanned c.label (captures root) = [⟨10, "type", c.label⟩] ∨
      p.symbol = .nonterminal .functionCall ∧ c.field = some .name ∧
        spanned c.label (captures root) = [⟨11, "function.call", c.label⟩]
  /-- A variable in the name of an account is marked as such, any other one as a variable. -/
  varName : ∀ p ∈ root :: root.inside, ∀ c ∈ p.children,
    Grammar.unaliased c.symbol = .terminal .variableName →
    spanned c.label (captures root) =
      [⟨if p.symbol = .nonterminal .accountLiteralPart then 9 else 8, "variable", c.label⟩]
  /-- The sign before an account is marked. -/
  atSign : ∀ p ∈ root :: root.inside, ∀ c ∈ p.children, c.symbol = .terminal .atSign →
    spanned c.label (captures root) = [⟨6, "punctuation.special", c.label⟩]

/-- The query marks every token of a valid program once, but for two exceptions. -/
theorem highlighted_of_valid (bytes : List UInt8) {root : Node}
    (h : Program.ofBytes bytes = .valid root) : Highlighted root := by
  have htraced := traced_of_valid bytes h
  refine ⟨fun m hm => ?_, fun l hl => ?_, fun p hp c hc hnone hbuiltin hshare => ?_,
    fun p hp c hc hcall hword => ?_, fun p hp c hc hshare hword => ?_, fun p hp c hc hword => ?_,
    fun p hp c hc hword => ?_, fun p hp c hc hword => ?_⟩
  · have hmem := ((List.mergeSort_perm _ _).trans htraced.marks).mem_iff.1 hm
    obtain ⟨e, he, hm⟩ := List.mem_flatMap.1 hmem
    refine ⟨e.2.label, ?_, htraced.spans e he m hm⟩
    refine (leaves_perm htraced.plain).mem_iff.1 (List.mem_map.2 ⟨e, List.mem_filter.2 ⟨he, ?_⟩, rfl⟩)
    cases hleaf : e.2.isLeaf with
    | true => rfl
    | false =>
      rw [htraced.unmarked e he hleaf] at hm
      cases hm
  · obtain ⟨e, he, rfl⟩ := List.mem_map.1 ((leaves_perm htraced.plain).mem_iff.2 hl)
    obtain ⟨hmem, hleaf⟩ := List.mem_filter.1 he
    obtain ⟨hp, hc⟩ := mem_edges.1 hmem
    refine ⟨e.1, hp, e.2, hc, ?_, rfl⟩
    rw [Node.isLeaf, Bool.and_eq_true] at hleaf
    exact List.isEmpty_iff.1 hleaf.1
  · have htoken : isToken c.symbol = true := by
      rw [← isLeaf_eq_of_valid bytes h (mem_inside_of_mem_edges (mem_edges.2 ⟨hp, hc⟩))]
      exact isLeaf_of_valid bytes h (mem_inside_of_mem_edges (mem_edges.2 ⟨hp, hc⟩)) hnone
    have hother : p.symbol ≠ .nonterminal .remainingAllotment := fun hp' => by
      by_cases hword : c.symbol = .terminal .kwRemaining
      · exact hshare ⟨hp', hword⟩
      · exact ne_share_of_valid bytes h hp hc hword hp'
    obtain ⟨hue, hhue⟩ := List.length_eq_one_iff.1 (hues_single_of_valid bytes h hp hc htoken hbuiltin)
    exact ⟨hue.1, hue.2, spanned_of_hues bytes h hp hc htoken hother hhue (List.pairwise_singleton _ _)⟩
  · have hpainted := painted_of_valid bytes h hp hc (by rw [Node.isComment, hword]; rfl)
    have hhues := (hpainted.builtin (by simp [isBuiltin, hcall, hword])).2
    exact spanned_of_hues bytes h hp hc (by rw [hword]; rfl) (by simp [hcall]) hhues (by decide)
  · have hhues := (painted_of_valid bytes h hp hc (by rw [Node.isComment, hword]; rfl)).remaining hword
    have hx := (exists_role_of_valid bytes h hp hc).1
    refine spanned_of_valid bytes h hp hc (by rw [hword]; rfl) ?_ (by simp)
    rw [marksOn_eq, phraseHues_eq _ hx, if_pos hshare, hhues]
    rfl
  · have hother := ne_share_of_valid bytes h hp hc (by rw [hword]; decide)
    refine ((painted_of_valid bytes h hp hc (by rw [Node.isComment, hword]; rfl)).identifier hword).imp
      (fun hrole => ⟨hrole.1, hrole.2.1, ?_⟩) fun hrole => ⟨hrole.1, hrole.2.1, ?_⟩
    · exact spanned_of_hues bytes h hp hc (by rw [hword]; rfl) hother hrole.2.2 (by decide)
    · exact spanned_of_hues bytes h hp hc (by rw [hword]; rfl) hother hrole.2.2 (by decide)
  · have hne {t : Terminal} (ht : t ≠ .variableName) : c.symbol ≠ .terminal t := fun hsymbol =>
      ht (Symbol.terminal.inj ((congrArg Grammar.unaliased hsymbol).symm.trans hword))
    have hplain : c.isComment = false := by
      rw [Node.isComment, decide_eq_false (hne (by decide)), decide_eq_false (hne (by decide))]
      rfl
    have hother := ne_share_of_valid bytes h hp hc (hne (by decide))
    have hhues := (painted_of_valid bytes h hp hc hplain).varName hword
    exact spanned_of_hues bytes h hp hc (by rw [isToken, hword]) hother hhues (List.pairwise_singleton _ _)
  · have hother := ne_share_of_valid bytes h hp hc (by rw [hword]; decide)
    have hhues := (painted_of_valid bytes h hp hc (by rw [Node.isComment, hword]; rfl)).atSign hword
    exact spanned_of_hues bytes h hp hc (by rw [hword]; rfl) hother hhues (by decide)

/-- A program with a type, a builtin function, variables inside and outside of an account, a share that takes
what remains, and a comment. -/
def colouredShares : List UInt8 :=
  ("vars \x7b account $a = overdraft(@b:$c) \x7d // of $a\n" ++
    "send $s ( source = $a destination = \x7b 1/2 kept remaining to f() \x7d )").toList.map
      fun c => c.toNat.toUInt8

theorem highlighted_colouredShares : ∃ root : Node,
    Program.ofBytes colouredShares = .valid root ∧ Highlighted root := by
  have hvalid : (Program.ofBytes colouredShares).root?.isSome = true := by decide +kernel
  cases hprogram : Program.ofBytes colouredShares with
  | invalid furthest =>
    rw [hprogram] at hvalid
    cases hvalid
  | valid root => exact ⟨root, rfl, highlighted_of_valid colouredShares hprogram⟩

end Numscript
