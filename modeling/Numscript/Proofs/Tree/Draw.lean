import Numscript.Proofs.Grammar.Printable
import Numscript.Proofs.Tree.Proper
import Numscript.Proofs.Tree.Sift

/-!
# Trees of printable forms

The words of a printable form, read as tokens of a text, are the tokens of a proper tree, and this tree
shows as the form. A production that spells the children says which roles they have; what a repetition
gathers becomes a tree of its own, taken apart at its last item.
-/
namespace Numscript

open Grammar (Item Spells productions rule sameItem unaliased keepsConventions valueOperator?)
open Automaton (Reduction rolesOf)

/-- A token of a text is a given word. -/
structure Token.Is (text : List Glyph) (token : Token) (w : Word) : Prop where
  kind : token.kind = w.kind
  word : token.word text = w.text

namespace Tree

/-- A proper tree that shows as a form, and has the same operator. -/
structure Draws (text : List Glyph) (f : Form) (t : Tree) : Prop where
  proper : t.Proper
  single : ¬t.Lone
  symbol : t.symbol = unaliased f.symbol
  shows : ∀ name, t.shownSymbol name = f.symbol → Node.forms text (t.nodes f.field name) = [f]
  operation : f.symbol = .nonterminal .infixExpr → t.operator? = Grammar.operator? f
  value : t.symbol = .nonterminal .valueExpr → t.operator? = valueOperator? f

/-- A proper tree that gathers forms as a repetition. -/
structure Gathers (text : List Glyph) (n : Nonterminal) (forms : List Form) (t : Tree) : Prop where
  repeats : n.isRepetition = true
  proper : t.Proper
  single : ¬t.Lone
  symbol : t.symbol = .nonterminal n
  shows : Node.forms text (t.nodes none none) = forms

/-- Trees that show as forms, in the way in which a production spells them. -/
inductive DrawsAll (text : List Glyph) : List Item → List Form → List Tree → Prop
  | nil : DrawsAll text [] [] []
  | single {c : Form} {t : Tree} {p : List Item} {forms : List Form} {trees : List Tree}
      (head : Draws text c t) (tail : DrawsAll text p forms trees) :
      DrawsAll text (c.item :: p) (c :: forms) (t :: trees)
  | gather {n : Nonterminal} {t : Tree} {p : List Item} {some forms : List Form} {trees : List Tree}
      (head : Gathers text n some t) (tail : DrawsAll text p forms trees) :
      DrawsAll text (⟨.nonterminal n, none⟩ :: p) (some ++ forms) (t :: trees)

variable {text : List Glyph} {p : List Item} {forms : List Form} {trees : List Tree}

theorem DrawsAll.proper (h : DrawsAll text p forms trees) : ∀ t ∈ trees, t.Proper ∧ ¬t.Lone := by
  induction h with
  | nil => nofun
  | single head _ ih => exact List.forall_mem_cons.2 ⟨⟨head.proper, head.single⟩, ih⟩
  | gather head _ ih => exact List.forall_mem_cons.2 ⟨⟨head.proper, head.single⟩, ih⟩

theorem DrawsAll.symbols (h : DrawsAll text p forms trees) :
    trees.map symbol = Reduction.children p := by
  induction h with
  | nil => rfl
  | single head _ ih => exact congrArg₂ _ head.symbol ih
  | gather head _ ih => exact congrArg₂ _ head.symbol ih

/-- Where the layout gives the trees the roles of the production, they show as the forms. -/
theorem DrawsAll.forms_nodesFrom (h : DrawsAll text p forms trees) {layout : Layout} {place : Nat}
    (roles : layout.itemsFrom place (trees.map symbol) = p) :
    Node.forms text (nodesFrom layout place trees) = forms := by
  induction h generalizing place with
  | nil => rfl
  | @single c t p forms trees head _ ih =>
    obtain ⟨hitem, hroles⟩ := List.cons.inj roles
    obtain ⟨hsymbol, hfield⟩ := Item.mk.inj hitem
    rw [nodesFrom, if_neg (by simp [head.proper.isComment]), forms_append, ih hroles, hfield,
      head.shows _ hsymbol]
    rfl
  | @gather n t p some forms trees head _ ih =>
    obtain ⟨hitem, hroles⟩ := List.cons.inj roles
    obtain ⟨hsymbol, hfield⟩ := Item.mk.inj hitem
    have hname : layout.alias? place = none := by
      cases hname : layout.alias? place with
      | none => rfl
      | some a =>
        rw [hname] at hsymbol
        cases hsymbol
    rw [nodesFrom, if_neg (by simp [head.proper.isComment]), forms_append, ih hroles, hfield, hname,
      head.shows]

theorem items_rolesOf {n : Nonterminal} (hp : p ∈ productions n) :
    (rolesOf p).items (Reduction.children p) = p := by
  have hall : ∀ p ∈ productions n, (rolesOf p).items (Reduction.children p) = p := by
    cases n <;> decide +kernel
  exact hall p hp

theorem DrawsAll.forms_children (h : DrawsAll text p forms trees) {n : Nonterminal}
    (hp : p ∈ productions n) : Node.forms text (nodesFrom (rolesOf p) 0 trees) = forms :=
  h.forms_nodesFrom (h.symbols ▸ items_rolesOf hp)

theorem nonterminal_of_unaliased {s : Symbol} {n : Nonterminal} (h : unaliased s = .nonterminal n)
    (value : n ≠ .valueExpr) : s = .nonterminal n := by
  cases s with
  | terminal => cases h
  | nonterminal => exact h
  | «alias» a =>
    cases a with
    | sentLiteral => exact absurd (Symbol.nonterminal.inj h).symm value
    | accountVar => cases h
  | error => cases h

theorem DrawsAll.exists_cons {i : Item} (h : DrawsAll text (i :: p) forms trees)
    (plain : i.isRepetition = false) : ∃ c t forms' trees', forms = c :: forms' ∧ trees = t :: trees' ∧
      c.item = i ∧ Draws text c t ∧ DrawsAll text p forms' trees' := by
  cases h with
  | single head tail => exact ⟨_, _, _, _, rfl, rfl, rfl, head, tail⟩
  | gather head _ => simp [Item.isRepetition, head.repeats] at plain

theorem DrawsAll.eq_nil (h : DrawsAll text [] forms trees) : forms = [] ∧ trees = [] := by
  cases h
  exact ⟨rfl, rfl⟩

/-- The trees of an operation, and what they show as. -/
theorem DrawsAll.exists_operands (h : DrawsAll text p forms trees)
    (hp : p ∈ productions .infixExpr) : ∃ l op r a o b, trees = [l, .leaf op, r] ∧
      forms = [a, o, b] ∧ Draws text a l ∧ Draws text b r ∧
      a.item = ⟨.nonterminal .valueExpr, some .left⟩ ∧ o.item = ⟨.terminal op.kind, some .op⟩ ∧
      b.item = ⟨.nonterminal .valueExpr, some .right⟩ := by
  obtain ⟨k, _, rfl⟩ := exists_operator hp
  obtain ⟨a, l, _, _, rfl, rfl, ha, hl, h⟩ := h.exists_cons rfl
  obtain ⟨o, m, _, _, rfl, rfl, ho, hm, h⟩ := h.exists_cons rfl
  obtain ⟨b, r, _, _, rfl, rfl, hb, hr, h⟩ := h.exists_cons rfl
  obtain ⟨rfl, rfl⟩ := h.eq_nil
  obtain ⟨op, rfl, rfl⟩ := eq_leaf_of_symbol (hm.symbol.trans (congrArg unaliased (Item.mk.inj ho).1))
  exact ⟨l, op, r, a, o, b, rfl, rfl, hl, hr, ha, ho, hb⟩

/-- The operator of an operation is the symbol of the child in the middle. -/
theorem operator?_eq {f a o b : Form} {k : Terminal} (children : f.children = [a, o, b])
    (ha : a.item = ⟨.nonterminal .valueExpr, some .left⟩) (ho : o.item = ⟨.terminal k, some .op⟩) :
    Grammar.operator? f = some k := by
  obtain ⟨_, hfield⟩ := Item.mk.inj ha
  obtain ⟨hsymbol, hfield'⟩ := Item.mk.inj ho
  rw [Grammar.operator?, children, List.findSome?_cons, List.findSome?_cons]
  simp only [hfield, hsymbol, hfield']

theorem DrawsAll.groups (h : DrawsAll text p forms trees) (hp : p ∈ productions .infixExpr) {f : Form}
    (children : f.children = forms) (groups : Grammar.groupsLeft f = true) : GroupsLeft trees := by
  obtain ⟨l, op, r, a, o, b, rfl, rfl, hl, hr, ha, ho, hb⟩ := h.exists_operands hp
  rw [Grammar.groupsLeft, operator?_eq children ha ho, children] at groups
  obtain ⟨hsymbol, hfield⟩ := Item.mk.inj ha
  obtain ⟨hsymbol', hfield'⟩ := Item.mk.inj hb
  simp only [List.all_cons, List.all_nil, Bool.and_true, Bool.and_eq_true, hfield, hfield'] at groups
  refine ⟨fun k hk => ?_, fun k hk => ?_⟩
  · rw [hl.value (hl.symbol.trans (congrArg unaliased hsymbol))] at hk
    rw [hk] at groups
    simpa using groups.1
  · rw [hr.value (hr.symbol.trans (congrArg unaliased hsymbol'))] at hk
    rw [hk] at groups
    simpa using groups.2.2

theorem operator?_value {l : Layout} {c : Tree} (h : c.Proper) (hc : c.symbol = .nonterminal .infixExpr) :
    (node .valueExpr l [c]).operator? = c.operator? := by
  cases h with
  | leaf => cases hc
  | node spelt _ symbols _ _ =>
    obtain rfl := Symbol.nonterminal.inj hc
    obtain ⟨_, _, _, _, rfl, _⟩ := exists_operands spelt symbols
    rfl

theorem operator?_value_eq_none {l : Layout} {c : Tree} (hc : c.symbol ≠ .nonterminal .infixExpr) :
    (node .valueExpr l [c]).operator? = none := by
  unfold operator?
  split
  · next heq => cases heq
  · next heq =>
    cases heq
    exact absurd rfl hc
  · rfl

theorem Proper.eq_nil_of_comments {part : List Tree} (proper : ∀ t ∈ part, t.Proper)
    (comments : ∀ t ∈ part, t.isComment = true) : part = [] :=
  List.eq_nil_iff_forall_not_mem.2 fun t ht =>
    Bool.false_ne_true ((proper t ht).isComment.symm.trans (comments t ht))

theorem Proper.of_mem {n : Nonterminal} {l : Layout} {children : List Tree}
    (h : (Tree.node n l children).Proper) : ∀ c ∈ children, c.Proper := by
  cases h with
  | node _ _ _ _ below => exact below

/-- An allotment of a single clause that takes what remains shows as one. -/
theorem sharesOut_clauses {opening word closing : Token} (opens : opening.kind = .lbrace)
    (remains : word.kind = .kwRemaining) (closes : closing.kind = .rbrace) (target : Tree) (s : Symbol)
    (field : Option Field) : Grammar.sharesOut (.mk s field [] (Node.forms text (nodesFrom .plain 0
      [.leaf opening, Braces.clauses word [] target, .leaf closing]))) = false := by
  simp [Braces.clauses, Braces.share, nodesFrom, nodes, isComment, opens, remains, closes,
    Terminal.isComment, Nonterminal.isRepetition, Layout.field?, Layout.alias?, Node.forms, Node.form,
    Node.form_spanning_eq, Grammar.sharesOut, Grammar.saysRemaining, Form.children, Form.symbol]

/-- A proper allotment that shares out has several clauses, or a single one that takes a portion. -/
theorem not_allotment {b : Braces} {target : Tree} {n : Nonterminal} {l : Layout} {s : Symbol}
    {field : Option Field} (heq : node n l trees = b.allotment target) (proper : ∀ t ∈ trees, t.Proper)
    (shares : Grammar.sharesOut (.mk s field [] (Node.forms text (nodesFrom l 0 trees))) = true) :
    False := by
  obtain ⟨rfl, rfl, rfl⟩ := Tree.node.inj heq
  have hclauses : (Braces.clauses b.word b.between target).Proper := proper _ (by simp)
  have hclause := hclauses.of_mem _ (List.mem_singleton_self _)
  have hbefore : b.before = [] := Proper.eq_nil_of_comments (fun t ht => proper t (by simp [ht]))
    fun t ht => b.comments t (by simp [ht])
  have hbetween : b.between = [] := Proper.eq_nil_of_comments (fun t ht => hclause.of_mem t (by simp [ht]))
    fun t ht => b.comments t (by simp [ht])
  have hbehind : b.behind = [] := Proper.eq_nil_of_comments (fun t ht => proper t (by simp [ht]))
    fun t ht => b.comments t (by simp [ht])
  rw [hbefore, hbetween, hbehind] at shares
  exact Bool.false_ne_true ((sharesOut_clauses b.opens b.remains b.closes target s field).symm.trans shares)

/-- A phrase over trees that show as its children shows as the form, where the form keeps the conventions. -/
theorem DrawsAll.draws (h : DrawsAll text p forms trees) {n : Nonterminal} {s : Symbol}
    {field : Option Field} (hp : p ∈ productions n) (inhabited : p ≠ [])
    (shows : unaliased s = .nonterminal n) (lasting : n.isRepetition = false)
    (keeps : keepsConventions (.mk s field [] forms) = true) :
    Draws text (.mk s field [] forms) (node n (rolesOf p) trees) := by
  have hforms := h.forms_children hp
  refine ⟨.node hp inhabited h.symbols ?_ fun c hc => (h.proper c hc).1, ?_, shows.symm, ?_, ?_, ?_⟩
  · rintro rfl
    obtain rfl := nonterminal_of_unaliased shows nofun
    exact h.groups hp rfl keeps
  · intro hlone
    generalize heq : node n (rolesOf p) trees = t at hlone
    cases hlone with
    | here b target =>
      obtain rfl : n = .destAllotment := (Tree.node.inj heq).1
      obtain rfl := nonterminal_of_unaliased shows nofun
      exact not_allotment heq (fun c hc => (h.proper c hc).1) (hforms ▸ keeps)
    | inside mem hlone =>
      cases heq
      exact (h.proper _ mem).2 hlone
  · intro name hname
    rw [nodes, if_neg (by simp [lasting]), Node.forms, Node.forms, Node.form_spanning_eq, hforms]
    exact congrArg (fun x => [Form.mk x field [] forms]) hname
  · intro hs
    obtain rfl : s = .nonterminal .infixExpr := hs
    obtain rfl := Symbol.nonterminal.inj shows
    obtain ⟨l, op, r, a, o, b, rfl, rfl, _, _, ha, ho, _⟩ := h.exists_operands hp
    exact (operator?_eq rfl ha ho).symm
  · intro hn
    obtain rfl := Symbol.nonterminal.inj hn
    obtain ⟨m, _, rfl, hm⟩ := exists_value hp
    have plain : ∀ p ∈ productions .valueExpr, ∀ i ∈ p, i.isRepetition = false := by decide +kernel
    obtain ⟨c, t, _, _, rfl, rfl, hc, ht, h⟩ := h.exists_cons (plain _ hp _ List.mem_cons_self)
    obtain ⟨rfl, rfl⟩ := h.eq_nil
    have hsymbol : c.symbol = .nonterminal m := (Item.mk.inj hc).1
    have hstructural : (Form.mk s field [] [c]).structural = [c] := by
      simp [Form.structural, Form.children, Form.isComment, hsymbol]
    rw [valueOperator?, hstructural]
    simp only
    split
    · next hinfixed =>
      rw [operator?_value ht.proper (ht.symbol.trans (congrArg unaliased hinfixed)), ht.operation hinfixed]
    · next hinfixed =>
      refine operator?_value_eq_none fun hsame => hinfixed ?_
      exact nonterminal_of_unaliased (ht.symbol.symm.trans hsame) nofun

/-- A repetition over trees that show as its items gathers these items. -/
theorem DrawsAll.gathers (h : DrawsAll text p forms trees) {n : Nonterminal} (hp : p ∈ productions n)
    (inhabited : p ≠ []) (repeats : n.isRepetition = true) :
    Gathers text n forms (node n (rolesOf p) trees) := by
  refine ⟨repeats, .node hp inhabited h.symbols ?_ fun c hc => (h.proper c hc).1, ?_, rfl, ?_⟩
  · rintro rfl
    cases repeats
  · intro hlone
    generalize heq : node n (rolesOf p) trees = t at hlone
    cases hlone with
    | here b target =>
      obtain rfl : n = .destAllotment := (Tree.node.inj heq).1
      cases repeats
    | inside mem hlone =>
      cases heq
      exact (h.proper _ mem).2 hlone
  · rw [nodes, if_pos repeats]
    exact h.forms_children hp

end Tree

namespace Form

open Numscript.Tree (Draws DrawsAll Gathers)

variable {text : List Glyph}

/-- Whatever tokens the words of a form are, there is a tree of these tokens that shows as the form. -/
def Drawable (text : List Glyph) (f : Form) : Prop :=
  ∀ tokens, List.Forall₂ (Token.Is text) tokens f.words → ∃ t, Draws text f t ∧ t.tokens = tokens

/-- Whatever tokens the words of some forms are, a repetition of these tokens gathers the forms. -/
def Gatherable (text : List Glyph) (n : Nonterminal) (forms : List Form) : Prop :=
  ∀ tokens, List.Forall₂ (Token.Is text) tokens (forms.flatMap words) →
    ∃ t, Gathers text n forms t ∧ t.tokens = tokens

theorem exists_append {tokens : List Token} {a b : List Word}
    (h : List.Forall₂ (Token.Is text) tokens (a ++ b)) : ∃ u v, tokens = u ++ v ∧
      List.Forall₂ (Token.Is text) u a ∧ List.Forall₂ (Token.Is text) v b :=
  ⟨_, _, (List.take_append_drop a.length tokens).symm, List.forall₂_take_append _ _ _ h,
    List.forall₂_drop_append _ _ _ h⟩

/-- The forms that a production spells are shown by trees of their tokens. -/
theorem exists_drawsAll {p : List Item} {forms : List Form} (spells : Spells p (forms.map item))
    (drawable : ∀ c ∈ forms, c.Drawable text)
    (gatherable : ∀ n, ⟨.nonterminal n, none⟩ ∈ p → n.isRepetition = true → ∀ us : List Form,
      (∀ c ∈ us, c ∈ forms) → (rule n).Fits sameItem (us.map item) → Gatherable text n us)
    {tokens : List Token} (ht : List.Forall₂ (Token.Is text) tokens (forms.flatMap words)) :
    ∃ trees, DrawsAll text p forms trees ∧ trees.flatMap Tree.tokens = tokens := by
  generalize hw : forms.map item = w at spells
  induction spells generalizing forms tokens with
  | nil =>
    obtain rfl := List.map_eq_nil_iff.1 hw
    cases ht
    exact ⟨[], .nil, rfl⟩
  | single plain rest ih =>
    obtain ⟨c, forms, rfl, rfl, rfl⟩ := List.map_eq_cons_iff.1 hw
    obtain ⟨u, v, rfl, hu, hv⟩ := exists_append ht
    obtain ⟨t, hdraws, htokens⟩ := drawable c List.mem_cons_self u hu
    obtain ⟨trees, hall, hrest⟩ := ih (fun d hd => drawable d (List.mem_cons_of_mem c hd))
      (fun n hn repeats us hus => gatherable n (List.mem_cons_of_mem _ hn) repeats us
        fun d hd => List.mem_cons_of_mem c (hus d hd)) hv rfl
    exact ⟨t :: trees, .single hdraws hall, by rw [List.flatMap_cons, htokens, hrest]⟩
  | @gather n p u w repeats fits rest ih =>
    obtain ⟨us, forms, rfl, rfl, rfl⟩ := List.map_eq_append_iff.1 hw
    rw [List.flatMap_append] at ht
    obtain ⟨u, v, rfl, hu, hv⟩ := exists_append ht
    obtain ⟨t, hgathers, htokens⟩ := gatherable n List.mem_cons_self repeats us
      (fun d hd => List.mem_append_left _ hd) fits u hu
    obtain ⟨trees, hall, hrest⟩ := ih (fun d hd => drawable d (List.mem_append_right _ hd))
      (fun n hn repeats vs hvs => gatherable n (List.mem_cons_of_mem _ hn) repeats vs
        fun d hd => List.mem_append_right _ (hvs d hd)) hv rfl
    exact ⟨t :: trees, .gather hgathers hall, by rw [List.flatMap_cons, htokens, hrest]⟩

/-- A repetition is a first item, or itself with one item more. -/
theorem exists_last {n : Nonterminal} {p : List Item} (repeats : n.isRepetition = true)
    (hp : p ∈ productions n) : ∃ a, a ≠ [] ∧ (∀ i ∈ a, i.isRepetition = false) ∧
      (p = a ∨ p = ⟨.nonterminal n, none⟩ :: a) := by
  have hall : ∀ p ∈ productions n, n.isRepetition = true →
      p ≠ [] ∧ (∀ i ∈ p, i.isRepetition = false) ∨
      p.head? = some ⟨.nonterminal n, none⟩ ∧ p.tail ≠ [] ∧ ∀ i ∈ p.tail, i.isRepetition = false := by
    cases n <;> decide +kernel
  rcases hall p hp repeats with ⟨hne, plain⟩ | ⟨hhead, hne, plain⟩
  · exact ⟨p, hne, plain, .inl rfl⟩
  · exact ⟨p.tail, hne, plain, .inr (List.eq_cons_of_mem_head? hhead)⟩

theorem eq_nil_of_spells {p : List Item} (plain : ∀ i ∈ p, i.isRepetition = false)
    (h : Spells p []) : p = [] := by
  generalize hw : ([] : List Item) = w at h
  cases h with
  | nil => rfl
  | single => cases hw
  | gather repeats => exact absurd ((plain _ List.mem_cons_self).symm.trans repeats) Bool.false_ne_true

/-- The items of a repetition are gathered one by one. -/
theorem gatherable_of_fits {n : Nonterminal} {forms : List Form} (repeats : n.isRepetition = true)
    (drawable : ∀ c ∈ forms, c.Drawable text) (fits : (rule n).Fits sameItem (forms.map item)) :
    Gatherable text n forms := by
  -- Each item has a form of its own, so without the last one there are fewer.
  induction hlength : forms.length using Nat.strong_induction_on generalizing forms with
  | _ length ih =>
    intro tokens ht
    obtain ⟨p, hp, hspells⟩ := Grammar.fits_rule_iff.1 fits
    obtain ⟨a, hne, plain, hpa⟩ := exists_last repeats hp
    have hitems : ∀ {vs : List Form} {tokens : List Token}, Spells a (vs.map item) →
        (∀ c ∈ vs, c.Drawable text) → List.Forall₂ (Token.Is text) tokens (vs.flatMap words) →
        ∃ trees, DrawsAll text a vs trees ∧ trees.flatMap Tree.tokens = tokens :=
      fun hspells drawable ht => exists_drawsAll hspells drawable (fun m hm hrepeats =>
        absurd ((plain _ hm).symm.trans hrepeats) Bool.false_ne_true) ht
    rcases hpa with rfl | rfl
    · obtain ⟨trees, hall, rfl⟩ := hitems hspells drawable ht
      exact ⟨_, hall.gathers hp hne repeats, Tree.tokens_node ..⟩
    · generalize hw : forms.map item = w at hspells
      cases hspells with
      | single hplain _ => exact absurd (hplain.symm.trans repeats) Bool.false_ne_true
      | gather _ fits rest =>
        obtain ⟨us, vs, rfl, rfl, rfl⟩ := List.map_eq_append_iff.1 hw
        rw [List.flatMap_append] at ht
        obtain ⟨u, v, rfl, hu, hv⟩ := exists_append ht
        obtain ⟨trees, hall, rfl⟩ := hitems rest (fun c hc => drawable c (List.mem_append_right _ hc)) hv
        have hpos : 0 < vs.length := by
          rw [List.length_pos_iff]
          rintro rfl
          exact hne (eq_nil_of_spells plain rest)
        have hlt : us.length < length := by
          rw [← hlength, List.length_append]
          omega
        obtain ⟨t, hgathers, rfl⟩ := ih us.length hlt
          (fun c hc => drawable c (List.mem_append_left _ hc)) fits rfl u hu
        refine ⟨_, (DrawsAll.gather hgathers hall).gathers hp (List.cons_ne_nil _ _) repeats, ?_⟩
        rw [Tree.tokens_node, List.flatMap_cons]

theorem ne_program_of_mem_letters {n : Nonterminal} {i : Item} (hi : i ∈ (rule n).letters) :
    unaliased i.symbol ≠ .nonterminal .program := by
  have hall : ∀ i ∈ (rule n).letters, unaliased i.symbol ≠ .nonterminal .program := by
    cases n <;> decide +kernel
  exact hall i hi

theorem eq_program_of_nil {n : Nonterminal} (hp : [] ∈ productions n) : n = .program := by
  have hall : [] ∈ productions n → n = .program := by
    cases n <;> decide +kernel
  exact hall hp

/-- The words of a printable form are the tokens of a tree that shows as the form, but for an empty program. -/
theorem Printable.drawable {f : Form} (h : f.Printable)
    (inhabited : unaliased f.symbol = .nonterminal .program → f.children ≠ []) : f.Drawable text := by
  induction h with
  | @token s t field word shows stands =>
    intro tokens ht
    rw [words, shows] at ht
    obtain ⟨token, _, his, hnil, rfl⟩ := List.forall₂_cons_right_iff.1 ht
    obtain rfl := List.forall₂_nil_right_iff.1 hnil
    have hplain : token.kind.isComment = false := his.kind ▸ stands.plain
    have hnode : unaliased s ≠ .nonterminal .infixExpr := by simp [shows]
    refine ⟨.leaf token, ⟨.leaf hplain, by rintro ⟨⟩, ?_, ?_, ?_, by rintro ⟨⟩⟩, rfl⟩
    · exact (congrArg Symbol.terminal his.kind).trans shows.symm
    · intro name hname
      have hword : Node.forms text ((Tree.leaf token).nodes field name) =
          [.mk ((Tree.leaf token).shownSymbol name) field (token.word text) []] := rfl
      rw [his.word, hname] at hword
      exact hword
    · intro hs
      obtain rfl : s = .nonterminal .infixExpr := hs
      exact absurd rfl hnode
  | @phrase s n field children shows lasting follows keeps below ih =>
    intro tokens ht
    rw [words, shows, wordsOfAll_eq] at ht
    have hdrawable : ∀ c ∈ children, c.Drawable text := by
      intro c hc
      obtain ⟨i, hi, hsame⟩ := Regular.exists_letter follows (List.mem_map_of_mem hc)
      obtain rfl := Grammar.sameItem_iff.1 hsame
      exact ih c hc fun hprogram => absurd hprogram (ne_program_of_mem_letters hi)
    obtain ⟨p, hp, hspells⟩ := Grammar.fits_rule_iff.1 follows
    have hne : p ≠ [] := by
      rintro rfl
      obtain rfl := eq_program_of_nil hp
      generalize hw : children.map item = w at hspells
      cases hspells
      exact inhabited shows (List.map_eq_nil_iff.1 hw)
    obtain ⟨trees, hall, rfl⟩ := exists_drawsAll hspells hdrawable (fun m _ repeats us hus fits =>
      gatherable_of_fits repeats (fun c hc => hdrawable c (hus c hc)) fits) ht
    exact ⟨_, hall.draws hp hne shows lasting keeps, Tree.tokens_node ..⟩

end Form
end Numscript
