import Numscript.NodeType.Conformance
import Numscript.Proofs.Automaton.Pairs
import Numscript.Proofs.Regular.Count
import Numscript.Proofs.Tiling
import Numscript.Proofs.Tree.Source

/-!
# Conformance of trees

The table of kinds agrees with the grammar. For every kind of phrase the rule bounds how many children a word
of it has in each field and without a field, and what they show as; these bounds are those of the slots. So
every node of a valid program conforms to the entry that the table has for its name.
-/
namespace Numscript

open Grammar (Item Rule rule sameItem unaliased)

/-- Whether the items with a property fill a slot, in all words of a rule. -/
def Slot.bounds : Option Slot → (P : Item → Bool) → Rule → Bool
  | some s, P, r => r.letters.all (fun i => !P i || s.kinds.contains i.symbol) &&
      (!s.required || r.always P) && (s.multiple || r.atMostOnce P)
  | none, P, r => r.lacks P

theorem Slot.holds_of_bounds {slot : Option Slot} {P : Item → Bool} {r : Rule} {w : List Item}
    (h : bounds slot P r = true) (fits : r.Fits sameItem w) :
    Holds? slot ((w.filter P).map (·.symbol)) := by
  have hsame : ∀ a b : Item, sameItem a b = true → P b = P a := fun a b hab => by
    rw [of_decide_eq_true hab]
  cases slot with
  | none =>
    rw [Regular.filter_of_lacks hsame fits h]
    rfl
  | some s =>
    simp only [bounds, Bool.and_eq_true, Bool.or_eq_true, Bool.not_eq_true', List.all_eq_true,
      List.contains_iff_mem] at h
    obtain ⟨⟨hkinds, hrequired⟩, hsingle⟩ := h
    refine ⟨fun x hx => ?_, fun hneeded => ?_, fun hone => ?_⟩
    · obtain ⟨i, hi, rfl⟩ := List.mem_map.1 hx
      obtain ⟨hmem, hp⟩ := List.mem_filter.1 hi
      obtain ⟨a, ha, hai⟩ := Regular.exists_letter fits hmem
      obtain rfl : a = i := of_decide_eq_true hai
      exact (hkinds a ha).resolve_left (by simp [hp])
    · have halways := hrequired.resolve_left (by simp [hneeded])
      obtain ⟨i, hi, hp⟩ := Regular.exists_of_always hsame fits halways
      exact List.ne_nil_of_mem (List.mem_map_of_mem (List.mem_filter.2 ⟨hi, hp⟩))
    · have honce := hsingle.resolve_left (by simp [hone])
      rw [List.length_map]
      exact Regular.length_filter_le_one hsame fits honce

namespace NodeType

/-- Whether a kind asks for what a rule allows. -/
def follows (k : NodeType) (r : Rule) : Bool :=
  Field.all.all (fun f => Slot.bounds (k.slot? f) (fun i => i.field = some f) r) &&
    Slot.bounds k.childSlot? (fun i => i.symbol.isNamed && i.field = none) r

/-- The rule of what a symbol shows; tokens have no children. -/
def rule? (x : Symbol) : Option Rule :=
  match unaliased x with
  | .terminal .endOfText => none
  | .terminal _ => some .done
  | .nonterminal n => if n.isRepetition then none else some (rule n)
  | .alias _ | .error => none

/-- Whether the table has a kind under the name of a symbol, and the kind asks for what its rule allows. -/
def describes (x : Symbol) : Bool :=
  match rule? x, find? x.name x.isNamed with
  | some r, some (k, _) => k.symbol = x && k.follows r
  | none, _ => true
  | some _, none => false

theorem describes_of_mem : ∀ x ∈ Symbol.all, describes x = true := by decide +kernel

theorem mem_all_of_rule? {x : Symbol} {r : Rule} (h : rule? x = some r) : x ∈ Symbol.all := by
  rw [Symbol.all, List.mem_append, List.mem_append]
  cases x with
  | terminal t => exact .inl (.inl (List.mem_map_of_mem (Terminal.mem_all t)))
  | nonterminal n => exact .inl (.inr (List.mem_map_of_mem (Nonterminal.mem_all n)))
  | «alias» a =>
    refine .inr (List.mem_map_of_mem ?_)
    cases a <;> decide
  | error => cases h

theorem exists_kind {x : Symbol} {r : Rule} (h : rule? x = some r) : ∃ k place,
    find? x.name x.isNamed = some (k, place) ∧ k.symbol = x ∧ k.follows r = true := by
  have hdescribes := describes_of_mem x (mem_all_of_rule? h)
  rw [describes, h] at hdescribes
  cases hfind : find? x.name x.isNamed with
  | none => simp [hfind] at hdescribes
  | some entry =>
    obtain ⟨k, place⟩ := entry
    simp only [hfind, Bool.and_eq_true, decide_eq_true_eq] at hdescribes
    exact ⟨k, place, rfl, hdescribes.1, hdescribes.2⟩

end NodeType

namespace Node

theorem map_filter_items {nodes : List Node} (extras : ∀ c ∈ nodes, c.label.extra = c.isComment)
    (P : Item → Bool) : ((items nodes).filter P).map (·.symbol) =
      (nodes.filter fun c => !c.label.extra && P ⟨c.symbol, c.field⟩).map (·.symbol) := by
  rw [items, List.filter_map, List.map_map, List.filter_filter]
  refine congrArg (List.map _) (List.filter_congr fun c hc => ?_)
  rw [extras c hc, Function.comp_apply, Bool.and_comm]

/-- A node whose children follow a rule conforms to a kind that asks for what the rule allows. -/
theorem conforms_of_follows {n : Node} {k : NodeType} {r : Rule} (kind : k.symbol = n.symbol)
    (follows : k.follows r = true) (fits : r.Fits sameItem (items n.children))
    (extras : ∀ c ∈ n.children, c.label.extra = c.isComment) : n.Conforms k := by
  obtain ⟨hfields, hchildren⟩ := Bool.and_eq_true_iff.1 follows
  refine ⟨kind, fun f => ?_, ?_⟩
  · have hholds := Slot.holds_of_bounds (List.all_eq_true.1 hfields f (Field.mem_all f)) fits
    rwa [map_filter_items extras] at hholds
  · have hholds := Slot.holds_of_bounds hchildren fits
    rwa [map_filter_items extras] at hholds

end Node

namespace Tree.Source

theorem extra_eq {s : Tree} {n : Node} (h : s.Source n) : n.label.extra = n.isComment := by
  cases h with
  | @token token symbol field shows =>
    change token.kind.isComment = (decide (symbol = _) || decide (symbol = _))
    rw [Terminal.isComment_eq]
    cases symbol with
    | terminal t =>
      obtain rfl : t = token.kind := Symbol.terminal.inj shows
      simp
    | nonterminal => cases shows
    | «alias» a =>
      cases a with
      | sentLiteral => cases shows
      | accountVar =>
        rw [← Symbol.terminal.inj shows]
        rfl
    | error => cases shows
  | @phrase phrase layout children symbol field shows =>
    change false = (decide (symbol = _) || decide (symbol = _))
    cases symbol with
    | terminal => cases shows
    | nonterminal => simp
    | «alias» => simp
    | error => cases shows

theorem exists_rule {text : List Glyph} {s : Tree} {n : Node} (h : s.Source n) (hs : s.Built text) :
    ∃ r, NodeType.rule? n.symbol = some r ∧ r.Fits sameItem (Node.items n.children) := by
  cases h with
  | @token token symbol field shows =>
    refine ⟨.done, ?_, .done⟩
    change NodeType.rule? symbol = _
    rw [NodeType.rule?, shows]
    cases hs with
    | leaf spans =>
      obtain ⟨_, _, _, _, hlexeme, _⟩ := spans
      cases hkind : token.kind with
      | endOfText =>
        rw [hkind] at hlexeme
        exact absurd hlexeme Lexer.not_isLexeme_endOfText
      | _ => rfl
  | @phrase phrase layout children symbol field shows lasting =>
    refine ⟨Grammar.rule phrase, ?_, hs.follows _ _ _ rfl⟩
    change NodeType.rule? symbol = _
    rw [NodeType.rule?, shows]
    exact if_neg (by simp [lasting])

end Tree.Source

/-- What a well-built phrase shows below it are comments that show as such, and other nodes. -/
theorem Tree.Built.extras {text : List Glyph} {phrase : Nonterminal} {layout : Layout}
    {children : List Tree} (h : (Tree.node phrase layout children).Built text) :
    ∀ c ∈ Tree.nodesFrom layout 0 children, c.label.extra = c.isComment := by
  intro c hc
  have hinside : c ∈ Node.insideAll (Tree.nodesFrom layout 0 children) := by
    rw [Node.insideAll_eq]
    exact List.mem_flatMap.2 ⟨c, hc, List.mem_cons_self⟩
  obtain ⟨_, _, hsource⟩ := h.exists_source.2 _ _ _ rfl c hinside
  exact hsource.extra_eq

theorem Tree.Source.extras {text : List Glyph} {s : Tree} {n : Node} (h : s.Source n)
    (hs : s.Built text) : ∀ c ∈ n.children, c.label.extra = c.isComment := by
  cases h with
  | token => nofun
  | phrase => exact hs.extras

/-- The children of every node of a valid program follow the rule of what the node shows. -/
theorem follows_of_valid (bytes : List UInt8) {root : Node}
    (h : Program.ofBytes bytes = .valid root) : ∀ n ∈ root :: root.inside,
      ∃ r, NodeType.rule? n.symbol = some r ∧ r.Fits sameItem (Node.items n.children) ∧
        ∀ c ∈ n.children, c.label.extra = c.isComment := by
  obtain ⟨_, tree, hparse, _, hroot, _⟩ := exists_tokens_of_valid bytes h
  obtain ⟨hbuilt, layout, children, rfl⟩ :=
    Parser.built_of_recognises (Parser.recognises_of_parse hparse)
  intro n hn
  rcases List.mem_cons.1 hn with rfl | hn
  · rw [hroot]
    exact ⟨Grammar.rule .program, rfl, hbuilt.follows _ _ _ rfl, hbuilt.extras⟩
  · rw [hroot] at hn
    obtain ⟨s, hs, hsource⟩ := hbuilt.exists_source_program _ n hn
    obtain ⟨r, hrule, hfits⟩ := hsource.exists_rule (hs.built hbuilt)
    exact ⟨r, hrule, hfits, hsource.extras (hs.built hbuilt)⟩

/--
Every node of a valid program conforms to the kind that the table has under its name, named or anonymous:
each field holds children of the kinds that may stand there, as many as may be, and so do the named children
without a field. Where the kind has no such field, or no such children, the node has none.
-/
theorem conforms_of_valid (bytes : List UInt8) {root : Node}
    (h : Program.ofBytes bytes = .valid root) : ∀ n ∈ root :: root.inside,
      ∃ k place, NodeType.find? n.kind n.isNamed = some (k, place) ∧ n.Conforms k := by
  intro n hn
  obtain ⟨r, hrule, hfits, hextras⟩ := follows_of_valid bytes h n hn
  obtain ⟨k, place, hfind, hkind, hfollows⟩ := NodeType.exists_kind hrule
  exact ⟨k, place, hfind, Node.conforms_of_follows hkind hfollows hfits hextras⟩

/-- A program with two bounded overdrafts, one with a colour and one without, and with both aliases. -/
def twoOverdrafts : List UInt8 :=
  ("send $m ( source = \x7b @a:$b \\ $c allowing overdraft up to $d " ++
    "@e allowing overdraft up to 5 \x7d destination = @f )").toList.map fun c => c.toNat.toUInt8

theorem conforms_twoOverdrafts : ∃ root : Node, Program.ofBytes twoOverdrafts = .valid root ∧
    ∀ n ∈ root :: root.inside,
      ∃ k place, NodeType.find? n.kind n.isNamed = some (k, place) ∧ n.Conforms k := by
  have hvalid : (Program.ofBytes twoOverdrafts).root?.isSome = true := by decide +kernel
  cases hprogram : Program.ofBytes twoOverdrafts with
  | invalid furthest =>
    rw [hprogram] at hvalid
    cases hvalid
  | valid root => exact ⟨root, rfl, conforms_of_valid twoOverdrafts hprogram⟩

end Numscript
