import Numscript.Proofs.Parser.Consume
import Numscript.Proofs.Parser.Copy
import Numscript.Proofs.Parser.Grouping

/-!
# What is left to read

A run is never at a dead end: whatever stands on the stack, some tokens without comments complete it to a
program. Every state but the last one has a goal whose missing children can be written down as trees without
operations. With these read the phrase of the goal stands on the stack in the place of its children. This
makes the stack lower, or the phrase on top of it a higher one, so that at last the program stands there
alone.

What may follow the phrase is told by the tokens that complete the rest of the stack. These never begin with
a slash, the one token before which a sum is not complete.
-/
namespace Numscript

open Grammar (Item productions)
open Automaton (Reduction Goal goals leads? goto? stateCount rolesOf)

namespace Symbol

/-- Whether a symbol has a tree without operations that has no more levels than this. -/
def grows : (depth : Nat) → Symbol → Bool
  | _, .terminal t => !t.isComment && t ≠ .endOfText
  | depth + 1, .nonterminal n => n ≠ .infixExpr &&
      (productions n).any fun p => !p.isEmpty && (Reduction.children p).all (grows depth)
  | _, _ => false

/-- The symbols that are written down to complete a phrase: neither operations nor what divides. -/
def isSimple : Symbol → Bool
  | .terminal t => !t.isComment && t ≠ .endOfText && t ≠ .slash
  | .nonterminal n => n ≠ .infixExpr
  | _ => false

theorem grows_of_isSimple {x : Symbol} (h : x.isSimple = true) : x.grows 5 = true := by
  have hall : ∀ n ∈ Nonterminal.all, n ≠ .infixExpr → (Symbol.nonterminal n).grows 5 = true := by
    decide +kernel
  cases x with
  | terminal t =>
    simp only [isSimple, Bool.and_eq_true] at h
    simpa only [grows, Bool.and_eq_true] using h.1
  | nonterminal n => exact hall n (Nonterminal.mem_all n) (of_decide_eq_true h)
  | «alias» => cases h
  | error => cases h

/-- How far up a phrase is that a symbol begins. -/
def height : Symbol → Nat
  | .nonterminal .allotmentClauseSrc | .nonterminal .allotmentClauseDest => 6
  | .nonterminal .srcClauses | .nonterminal .destClauses => 7
  | x => x.rank

theorem height_le (x : Symbol) : x.height ≤ 54 := by
  unfold height
  split
  all_goals first | decide | exact x.rank_le

end Symbol

namespace Tree

/-- A tree that is no operation, and has neither comments nor the end of the text among its tokens. -/
structure Simple (t : Tree) : Prop where
  proper : t.Proper
  single : t.operator? = none
  tokens : ∀ token ∈ t.tokens, token.kind.isComment = false ∧ token.kind ≠ .endOfText

/-- Without operations among its children, no phrase but an operation has an operator. -/
theorem operator?_of_children {n : Nonterminal} {layout : Layout} {children : List Tree}
    (inner : n ≠ .infixExpr) (below : ∀ c ∈ children, c.symbol ≠ .nonterminal .infixExpr) :
    (Tree.node n layout children).operator? = none := by
  generalize ht : Tree.node n layout children = t
  unfold operator?
  split
  · exact absurd (Tree.node.inj ht).1 inner
  · obtain ⟨-, -, rfl⟩ := Tree.node.inj ht
    exact absurd rfl (below _ List.mem_cons_self)
  · rfl

theorem exists_trees {P : Tree → Prop} {w : List Symbol} (h : ∀ x ∈ w, ∃ t : Tree, P t ∧ t.symbol = x) :
    ∃ trees : List Tree, (∀ t ∈ trees, P t) ∧ trees.map symbol = w := by
  induction w with
  | nil => exact ⟨[], List.forall_mem_nil _, rfl⟩
  | cons x w ih =>
    rw [List.forall_mem_cons] at h
    obtain ⟨t, ht, rfl⟩ := h.1
    obtain ⟨trees, htrees, rfl⟩ := ih h.2
    exact ⟨t :: trees, List.forall_mem_cons.2 ⟨ht, htrees⟩, rfl⟩

theorem mem_tokensOfAll {token : Token} {trees : List Tree} :
    token ∈ tokensOfAll trees ↔ ∃ t ∈ trees, token ∈ t.tokens := by
  rw [tokensOfAll_eq, List.mem_flatMap]

theorem exists_simple {depth : Nat} {x : Symbol} (h : x.grows depth = true) :
    ∃ t : Tree, t.Simple ∧ t.symbol = x := by
  induction depth generalizing x with
  | zero =>
    cases x with
    | terminal k => exact exists_leaf h
    | _ => cases h
  | succ depth ih =>
    cases x with
    | terminal k => exact exists_leaf h
    | nonterminal n =>
      simp only [Symbol.grows, Bool.and_eq_true, decide_eq_true_eq, List.any_eq_true, List.all_eq_true,
        Bool.not_eq_true', List.isEmpty_eq_false_iff] at h
      obtain ⟨inner, p, spelt, inhabited, below⟩ := h
      obtain ⟨trees, simple, symbols⟩ := exists_trees fun x hx => ih (below x hx)
      have hbelow : ∀ c ∈ trees, c.symbol ≠ .nonterminal .infixExpr := by
        intro c hc hoperation
        have hgrows := below c.symbol (symbols ▸ List.mem_map_of_mem hc)
        rw [hoperation] at hgrows
        cases depth <;> simp [Symbol.grows] at hgrows
      refine ⟨.node n (rolesOf p) trees, ⟨.node spelt inhabited symbols (absurd · inner)
        fun c hc => (simple c hc).proper, operator?_of_children inner hbelow, fun token ht => ?_⟩, rfl⟩
      rw [Tree.tokens, mem_tokensOfAll] at ht
      obtain ⟨c, hc, ht⟩ := ht
      exact (simple c hc).tokens token ht
    | _ => cases h
where
  exists_leaf {k : Terminal} {depth : Nat} (h : (Symbol.terminal k).grows depth = true) :
      ∃ t : Tree, t.Simple ∧ t.symbol = .terminal k := by
    simp only [Symbol.grows, Bool.and_eq_true, Bool.not_eq_true', decide_eq_true_eq] at h
    refine ⟨.leaf ⟨k, .origin, .origin⟩, ⟨.leaf h.1, rfl, fun token ht => ?_⟩, rfl⟩
    rw [Tree.tokens, List.mem_singleton] at ht
    exact ht ▸ h

end Tree

namespace Automaton

/-- Whether simple trees fill these columns one by one from a state on, none of them a slash. -/
def finishes (q : Nat) : List (List Symbol) → Bool
  | [] => true
  | column :: rest => column.any fun x => x.isSimple && match leads? q x with
    | some next => finishes next rest
    | none => false

/-- Whether the missing children of a goal can be read, and its phrase stands above what it begins with. -/
def Goal.leadsOn (g : Goal) (q : Nat) : Bool :=
  g.reduction.spellsProductions && g.read ≤ g.reduction.arity &&
    finishes q (g.reduction.columns.drop g.read) && (1 < g.read || g.read = 1 && (g.reduction.column 0).all fun x =>
      x.height < (Symbol.nonterminal g.reduction.phrase).height)

theorem exists_leadsOn : ∀ q ∈ List.range stateCount, q ∈ [recovery, start, final] ∨
    ∃ g ∈ goals q, g.leadsOn q = true := by
  decide +kernel

/-- What fills the columns are trees that can be read one by one. -/
theorem exists_trees_of_finishes {q : Nat} {columns : List (List Symbol)} (h : finishes q columns = true) :
    ∃ (trees : List Tree) (last : Nat), (∀ t ∈ trees, t.Simple ∧ t.symbol ≠ .terminal .slash) ∧
      walk q (trees.map Tree.symbol) = some last ∧
      List.Forall₂ (· ∈ ·) (trees.map Tree.symbol) columns := by
  induction columns generalizing q with
  | nil => exact ⟨[], q, List.forall_mem_nil _, rfl, .nil⟩
  | cons column rest ih =>
    rw [finishes, List.any_eq_true] at h
    obtain ⟨x, hx, h⟩ := h
    rw [Bool.and_eq_true] at h
    obtain ⟨hsimple, h⟩ := h
    cases hleads : leads? q x with
    | none => simp [hleads] at h
    | some next =>
      simp only [hleads] at h
      obtain ⟨trees, last, htrees, hwalk, hcolumns⟩ := ih h
      obtain ⟨t, ht, rfl⟩ := Tree.exists_simple (Symbol.grows_of_isSimple hsimple)
      refine ⟨t :: trees, last, List.forall_mem_cons.2 ⟨⟨ht, ?_⟩, htrees⟩, ?_, .cons hx hcolumns⟩
      · intro hslash
        simp [hslash, Symbol.isSimple] at hsimple
      · rw [List.map_cons, walk, hleads]
        exact hwalk

end Automaton

namespace Parser

open Automaton (Goal.leadsOn finishes)

/-- How far a stack without comments is from a program: a goal that leads on brings it closer. -/
def Stack.distance : Stack → Nat
  | [] => 0
  | f :: rest => 55 * (rest.length + 1) + (54 - f.tree.symbol.height)

/-- Frames on a viable stack are trees that were laid on it one by one. -/
theorem Viable.climbs {upper lower : Stack} (h : Viable (upper ++ lower))
    (plain : ∀ f ∈ upper, f.tree.isComment = false) :
    Climbs lower (upper.map (·.tree)).reverse (upper ++ lower) := by
  induction upper with
  | nil => exact .nil
  | cons f upper ih =>
    rw [List.forall_mem_cons] at plain
    rw [List.map_cons, List.reverse_cons]
    rw [List.cons_append] at h ⊢
    cases h with
    | comment _ hc => cases hc.symm.trans plain.1
    | read below _ leads => exact .snoc (ih below plain.2) plain.1 leads

theorem Climbs.append {s t u : Stack} {trees more : List Tree} (h : Climbs s trees t)
    (h' : Climbs t more u) : Climbs s (trees ++ more) u := by
  induction h' with
  | nil => rwa [List.append_nil]
  | snoc _ plain leads ih =>
    rw [← List.append_assoc]
    exact .snoc ih plain leads

/-- Simple trees are read one by one, wherever their symbols lead on. -/
theorem Consumes.of_simple {trees : List Tree} {s : Stack} {last : Nat} {a : Token} {more : List Token}
    {e : Ending} (hv : Viable s) (plain : a.kind.isComment = false) (simple : ∀ t ∈ trees, t.Simple)
    (hw : Automaton.walk s.state (trees.map Tree.symbol) = some last)
    (behind : ∀ t, Climbs s trees t → Consumes (a :: more) t e) :
    Consumes (Tree.tokensOfAll trees ++ a :: more) s e := by
  refine .of_children hv plain (fun t ht => (simple t ht).proper) hw ?_ ?_ behind
  · rintro u c v rfl q _ b _ _
    exact .of_none (simple c (by simp)).single q b.kind
  · intro c hc s next b more' hv' leads suits plain' h
    exact .of_proper (simple c hc).proper s next b more' hv' leads suits plain' h

/-- The frames of a goal on a stack without comments, above the state that the phrase leads on from. -/
theorem Viable.exists_taken {s : Stack} (hv : Viable s) (plain : ∀ f ∈ s, f.tree.isComment = false)
    {r : Reduction} {count : Nat} (goal : ⟨r, count + 1⟩ ∈ goals s.state) :
    ∃ (taken rest : Stack) (next : Nat), s = taken ++ rest ∧ taken.length = count + 1 ∧
      goto? rest.state r.phrase = some next ∧
      List.Forall₂ (· ∈ ·) ((taken.map (·.tree)).reverse.map Tree.symbol)
        ((List.range (count + 1)).map r.column) := by
  obtain ⟨children, rest, next, pop, _, leads, fill⟩ := hv.pop goal []
  obtain ⟨taken, rfl, hchildren, hcount⟩ := Stack.pop_eq_some pop
  rw [List.append_nil, List.append_nil] at hchildren
  have hall : (taken.filter fun f => !f.tree.isComment) = taken := List.filter_eq_self.2 fun f hf => by
    simp [plain f (List.mem_append_left _ hf)]
  rw [hall] at hcount
  rw [Fill, hchildren, structural_of_taken, Stack.plain, hall] at fill
  refine ⟨taken, rest, next, rfl, hcount, leads, ?_⟩
  rwa [List.map_reverse, List.map_map]

/-- The phrase of a goal brings a stack closer to a program. -/
theorem Stack.distance_lt {taken rest : Stack} {r : Reduction} {count next : Nat} {layout : Layout}
    {children : List Tree} (length : taken.length = count + 1)
    (fill : List.Forall₂ (· ∈ ·) ((taken.map (·.tree)).reverse.map Tree.symbol)
      ((List.range (count + 1)).map r.column))
    (above : count = 0 → ∀ x ∈ r.column 0, x.height < (Symbol.nonterminal r.phrase).height) :
    Stack.distance (⟨next, .node r.phrase layout children⟩ :: rest) < Stack.distance (taken ++ rest) := by
  obtain ⟨f, more, rfl⟩ := List.exists_cons_of_length_eq_add_one length
  have hle := (Symbol.nonterminal r.phrase).height_le
  have hsymbol : (Tree.node r.phrase layout children).symbol = .nonterminal r.phrase := rfl
  rw [List.length_cons] at length
  simp only [Stack.distance, List.cons_append, List.length_append, hsymbol]
  cases count with
  | succ count => omega
  | zero =>
    obtain rfl : more = [] := List.length_eq_zero_iff.1 (Nat.succ.inj length)
    have hcolumn : f.tree.symbol ∈ r.column 0 := by simpa using fill
    have hlt := above rfl _ hcolumn
    simp only [List.length_nil]
    omega

/-- With some simple trees more, a stack holds a phrase that brings it closer to a program. -/
theorem Viable.exists_phrase {f : Frame} {below : Stack} (hv : Viable (f :: below))
    (plain : ∀ g ∈ f :: below, g.tree.isComment = false) (inner : f.state ≠ Automaton.final) :
    ∃ (trees : List Tree) (u : Stack), (∀ t ∈ trees, t.Simple ∧ t.symbol ≠ .terminal .slash) ∧
      Viable u ∧ (∀ g ∈ u, g.tree.isComment = false) ∧ u.distance < Stack.distance (f :: below) ∧
      ∀ (a : Token) (more : List Token) (e : Ending), a.kind.isComment = false → a.kind ≠ .slash →
        Consumes (a :: more) u e → Consumes (Tree.tokensOfAll trees ++ a :: more) (f :: below) e := by
  obtain ⟨_, hentered⟩ : ∃ q, leads? q f.tree.symbol = some f.state := by
    cases hv with
    | comment _ hc => cases hc.symm.trans (plain _ List.mem_cons_self)
    | read _ _ leads => exact ⟨_, leads⟩
  obtain ⟨⟨r, count⟩, goal, hleads⟩ : ∃ g ∈ goals f.state, g.leadsOn f.state = true := by
    refine (Automaton.exists_leadsOn f.state (List.mem_range.2 hv.state_lt)).resolve_left ?_
    simp [Automaton.leads?_ne_recovery hentered, Automaton.leads?_ne_start hentered, inner]
  simp only [Goal.leadsOn, Bool.and_eq_true, Bool.or_eq_true, decide_eq_true_eq, List.all_eq_true] at hleads
  obtain ⟨⟨⟨hspells, hread⟩, hfinishes⟩, habove⟩ := hleads
  obtain ⟨count, rfl⟩ : ∃ n, count = n + 1 := ⟨count - 1, by omega⟩
  obtain ⟨taken, rest, next, hsplit, hlength, hgoto, hfill⟩ := hv.exists_taken plain goal
  obtain ⟨trees, last, htrees, hwalk, hcolumns⟩ := Automaton.exists_trees_of_finishes hfinishes
  rw [hsplit, List.forall_mem_append] at plain
  rw [hsplit] at hv
  have hclimbs := hv.climbs plain.1
  -- the trees on the stack and the simple ones make up a production
  have hword := List.rel_append hfill hcolumns
  beta_reduce at hword
  rw [Reduction.range_map_column hread, List.take_append_drop, ← List.map_append] at hword
  obtain ⟨spelt, hsymbols⟩ := Reduction.items_mem_of_spells hspells hword
  generalize r.layout.items _ = p at spelt hsymbols
  have hwalk' : Automaton.walk rest.state (Reduction.children p) = some last := by
    rw [hsymbols, List.map_append, Automaton.walk_append, hclimbs.state, Option.bind_some, ← hsplit]
    exact hwalk
  have hphrase : Viable (⟨next, .node r.phrase (rolesOf p) ((taken.map (·.tree)).reverse ++ trees)⟩ :: rest) :=
    .read hv.of_append rfl hgoto
  refine ⟨trees, _, htrees, hphrase, List.forall_mem_cons.2 ⟨rfl, plain.2⟩, ?_, ?_⟩
  · rw [hsplit]
    refine Stack.distance_lt hlength hfill fun hzero => ?_
    exact (habove.resolve_left (by omega)).2
  · intro a more e hplain hslash h
    obtain ⟨_, hsettles⟩ := h.exists_settles
    have hfollows := hsettles.follows hplain (List.forall_mem_nil _) rfl hphrase
    have hasks := Automaton.reduction?_of_follows hgoto spelt hwalk' hfollows (absurd · hslash)
    rw [hsplit]
    refine .of_simple hv hplain (fun t ht => (htrees t ht).1) (by rw [← hsplit]; exact hwalk)
      fun t climbs => ?_
    have hall := hclimbs.append climbs
    have hstate := hall.state
    rw [← hsymbols, hwalk'] at hstate
    rw [Option.some.inj hstate] at hasks
    obtain ⟨next', hnext', hreduces⟩ := hall.reduces hv.of_append hasks
      (by rw [← List.length_map, ← hsymbols]; simp [Reduction.children, Automaton.reductionOf])
      (by simp [← List.length_pos_iff, hlength])
    obtain rfl := Option.some.inj (hgoto.symm.trans hnext')
    exact .reduce hplain hasks hreduces h

/-- Some tokens complete a stack without comments to a program. -/
theorem Viable.exists_front {s : Stack} (hv : Viable s) (plain : ∀ f ∈ s, f.tree.isComment = false)
    (stop : Token) (kind : stop.kind = .endOfText) : ∃ (front : List Token) (root : Tree),
      (∀ t ∈ front, t.kind.isComment = false ∧ t.kind ≠ .endOfText) ∧
      (∀ t ∈ front.head?, t.kind ≠ .slash) ∧ Consumes (front ++ [stop]) s (.accepted root) := by
  have hbegin : ∀ {t : Tree} {more : List Token}, t.Simple → t.symbol ≠ .terminal .slash →
      ∀ token ∈ (t.tokens ++ more).head?, token.kind ≠ .slash := by
    intro t more simple hne token htoken
    obtain ⟨first, rest, htokens, _, hslash⟩ := simple.proper.exists_token
    rw [htokens] at htoken
    obtain rfl := Option.some.inj htoken
    exact fun h => hne (hslash h)
  induction hd : s.distance using Nat.strong_induction_on generalizing s with
  | _ d ih =>
    subst hd
    cases s with
    | nil =>
      obtain ⟨t, simple, hsymbol⟩ :=
        Tree.exists_simple (Symbol.grows_of_isSimple (x := .nonterminal .program) rfl)
      refine ⟨t.tokens, t, simple.tokens, ?_, .of_program simple.proper hsymbol kind⟩
      simpa using @hbegin t [] simple (by simp [hsymbol])
    | cons f below =>
      by_cases hfinal : f.state = Automaton.final
      · obtain ⟨upper, lower, layout, children, halone, above, under⟩ := hv.program_of_final hfinal
        exact ⟨[], _, List.forall_mem_nil _, by simp, .last (.accept hfinal kind halone above under)⟩
      · obtain ⟨trees, u, simple, hu, hplain, hlt, hread⟩ := hv.exists_phrase plain hfinal
        obtain ⟨front, root, hfront, hslash, hconsumes⟩ := ih _ hlt hu hplain rfl
        refine ⟨Tree.tokensOfAll trees ++ front, root, ?_, ?_, ?_⟩
        · rw [List.forall_mem_append]
          refine ⟨fun token ht => ?_, hfront⟩
          obtain ⟨t, ht, htoken⟩ := Tree.mem_tokensOfAll.1 ht
          exact (simple t ht).1.tokens token htoken
        · cases trees with
          | nil => exact hslash
          | cons t trees =>
            rw [List.forall_mem_cons] at simple
            rw [Tree.tokensOfAll, List.append_assoc]
            exact hbegin simple.1.1 simple.1.2
        · rw [List.append_assoc]
          cases front with
          | nil => exact hread stop [] _ (by rw [kind]; rfl) (by simp [kind]) hconsumes
          | cons a front =>
            exact hread a _ _ (hfront a List.mem_cons_self).1 (hslash a rfl) hconsumes

/-- Copies of tokens are consumed as the tokens are, on a stack that is the same but for comments. -/
theorem Consumes.agrees {text text' : List Glyph} {tokens tokens' : List Token} {s s' : Stack} {e : Ending}
    (h : Consumes tokens s e) (agrees : Stack.Agrees text text' s s') (hv : Viable s) (hv' : Viable s')
    (copies : List.Forall₂ (Token.Copies text text') tokens tokens') :
    ∃ e', Consumes tokens' s' e' ∧ Ending.Agrees text text' e e' := by
  refine h.simulated (R := fun s s' => Stack.Agrees text text' s s' ∧ Viable s ∧ Viable s') ?_
    ⟨agrees, hv, hv'⟩ copies
  rintro token token' s s' e ⟨hagrees, hv, hv'⟩ copy settles
  obtain ⟨e', hsettles, hends⟩ := settles.agrees hagrees hv hv' copy
  refine ⟨e', hsettles, hends, ?_⟩
  rintro t rfl
  cases hends with
  | pushed hstacks => exact ⟨_, rfl, hstacks, hv.settles settles, hv'.settles hsettles⟩

/-- Whatever tokens of some kinds are read, they complete a viable stack to a program. -/
theorem Viable.exists_kinds {s : Stack} (hv : Viable s) : ∃ kinds : List Terminal,
    (∀ k ∈ kinds, k.isComment = false ∧ k ≠ .endOfText) ∧
    ∀ (tokens : List Token) (stop : Token), tokens.map (·.kind) = kinds → stop.kind = .endOfText →
      ∃ root, Consumes (tokens ++ [stop]) s (.accepted root) := by
  let last : Token := ⟨.endOfText, .origin, .origin⟩
  have hplain : ∀ f ∈ s.plain, f.tree.isComment = false := fun f hf => by
    simpa using (List.mem_filter.1 hf).2
  obtain ⟨front, root, hfront, _, hconsumes⟩ := hv.plain.1.exists_front hplain last rfl
  refine ⟨front.map (·.kind), by simpa using hfront, fun tokens stop kinds kind => ?_⟩
  -- in the empty text all tokens of a kind are copies
  have hcopies : List.Forall₂ (Token.Copies [] []) (front ++ [last]) (tokens ++ [stop]) := by
    have hkinds : List.Forall₂ (· = ·) (front.map (·.kind)) (tokens.map (·.kind)) := by
      rw [kinds]
      exact List.forall₂_same.2 fun _ _ => rfl
    rw [List.forall₂_map_left_iff, List.forall₂_map_right_iff] at hkinds
    exact List.rel_append (hkinds.imp fun _ _ hkind => ⟨hkind.symm, rfl⟩) (.cons ⟨kind, rfl⟩ .nil)
  have hagrees : Stack.Agrees [] [] s.plain s := by
    have hsame : Stack.plain s.plain = s.plain := List.filter_eq_self.2 fun f hf => by simp [hplain f hf]
    rw [Stack.Agrees, hsame]
    exact List.forall₂_same.2 fun f _ => ⟨rfl, copy_self [] _⟩
  obtain ⟨_, hconsumes, hends⟩ := hconsumes.agrees hagrees hv.plain.1 hv hcopies
  cases hends with
  | accepted => exact ⟨_, hconsumes⟩

end Parser
end Numscript
