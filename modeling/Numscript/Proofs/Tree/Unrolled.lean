import Numscript.Proofs.Tree.Moved

/-!
# The statements of a program

A program without its repetition is a list of trees: the declaration of its variables, its statements, and
the comments before, between and behind them. Which tokens they have, and what they are without comments,
tells what they are, as no phrase begins or ends with a comment.
-/
namespace Numscript.Tree

open Grammar (productions)

/-- What is known of each phrase that the machine finds, but for the program itself. -/
structure Found (t : Tree) : Prop where
  trimmed : t.Trimmed
  spelt : t.Spelt
  inner : t.symbol ≠ .nonterminal .program

theorem Found.leaf (token : Token) : (leaf token).Found := ⟨.leaf token, .leaf token, nofun⟩

theorem Found.moved (start : Point) {t : Tree} (h : t.Found) : (t.moved start).Found :=
  ⟨h.trimmed.moved start, h.spelt.moved start, by simpa using h.inner⟩

theorem Found.below {phrase : Nonterminal} {layout : Layout} {children : List Tree}
    (h : (node phrase layout children).Found) : children ≠ [] ∧ ∀ c ∈ children, c.Found := by
  obtain ⟨trimmed, spelt, inner⟩ := h
  cases trimmed with
  | node first last trimmed =>
    generalize ht : node phrase layout children = t at spelt
    cases spelt with
    | leaf => cases ht
    | @node n p _ spelt symbols below =>
      obtain ⟨rfl, rfl, rfl⟩ := Tree.node.inj ht
      refine ⟨?_, fun c hc => ⟨trimmed c hc, below c hc, ?_⟩⟩
      · rintro rfl
        obtain rfl : p = [] := List.map_eq_nil_iff.1 symbols.symm
        obtain rfl := Form.eq_program_of_nil spelt
        exact inner rfl
      · cases hplain : c.isComment with
        | false => exact ne_program_of_spelt spelt symbols hc hplain
        | true =>
          cases c with
          | leaf => nofun
          | node => cases hplain

/-- A phrase begins and ends with tokens that are no comments. -/
theorem Found.ends {t : Tree} (h : t.Found) (plain : t.isComment = false) :
    (∃ token ∈ t.tokens.head?, token.kind.isComment = false) ∧
      ∃ token ∈ t.tokens.getLast?, token.kind.isComment = false := by
  have htrimmed := h.trimmed
  induction htrimmed with
  | leaf token => exact ⟨⟨token, rfl, plain⟩, ⟨token, rfl, plain⟩⟩
  | @node phrase layout children first last _ ih =>
    obtain ⟨inhabited, hbelow⟩ := h.below
    constructor
    · obtain ⟨c, rest, rfl⟩ := List.exists_cons_of_ne_nil inhabited
      obtain ⟨token, htoken, hplain⟩ := (ih c List.mem_cons_self (hbelow c List.mem_cons_self)
        (first c rfl)).1
      refine ⟨token, ?_, hplain⟩
      rw [Option.mem_def] at htoken
      rw [tokens, tokensOfAll, List.head?_append, htoken]
      rfl
    · obtain ⟨rest, c, rfl⟩ : ∃ rest c, children = rest ++ [c] :=
        ⟨_, _, (List.dropLast_concat_getLast inhabited).symm⟩
      obtain ⟨token, htoken, hplain⟩ := (ih c (by simp) (hbelow c (by simp))
        (last c (by simp))).2
      refine ⟨token, ?_, hplain⟩
      rw [Option.mem_def] at htoken
      rw [tokens, tokensOfAll_eq, List.flatMap_append, List.flatMap_singleton, List.getLast?_append,
        htoken]
      rfl

/-- Two beginnings of a list that end with a kept element are the same if the same elements are kept. -/
theorem eq_of_filter {keeps : Token → Bool} {a b x y : List Token} (split : a ++ x = b ++ y)
    (same : a.filter keeps = b.filter keeps) (ha : ∃ t ∈ a.getLast?, keeps t = true)
    (hb : ∃ t ∈ b.getLast?, keeps t = true) : a = b := by
  have hnone : ∀ {a m : List Token}, a.filter keeps = (a ++ m).filter keeps →
      (∃ t ∈ (a ++ m).getLast?, keeps t = true) → m = [] := by
    rintro a m same ⟨t, ht, hkeeps⟩
    rw [List.filter_append, List.self_eq_append_right, List.filter_eq_nil_iff] at same
    rw [List.getLast?_append] at ht
    cases hm : m.getLast? with
    | none => exact List.getLast?_eq_none_iff.1 hm
    | some u =>
      rw [hm] at ht
      obtain rfl : u = t := Option.some.inj ht
      exact absurd hkeeps (same u (List.mem_of_getLast? hm))
  rcases List.append_eq_append_iff.1 split with ⟨m, rfl, _⟩ | ⟨m, rfl, _⟩
  · rw [hnone same hb, List.append_nil]
  · rw [hnone same.symm ha, List.append_nil]

/-- Where the same tokens lie below trees that are the same without comments, the first trees have the same
tokens: a comment is not taken for a phrase, and a phrase ends where it does without comments. -/
theorem tokens_eq_of_cons {t u : Tree} {a b : List Tree} (ht : t.Found) (hu : u.Found)
    (sifted : siftedAll (t :: a) = siftedAll (u :: b))
    (tokens : tokensOfAll (t :: a) = tokensOfAll (u :: b)) :
    t.tokens = u.tokens ∧ t.isComment = u.isComment := by
  rw [tokensOfAll, tokensOfAll] at tokens
  have hapart : ∀ {c t : Tree} {x y : List Token}, c.isComment = true → t.Found → t.isComment = false →
      c.tokens ++ x ≠ t.tokens ++ y := by
    intro c t x y hc ht hplain hsame
    obtain ⟨token, htoken, hkind⟩ := (ht.ends hplain).1
    have hhead := congrArg List.head? hsame
    rw [List.head?_append, List.head?_append, Option.mem_def.1 htoken] at hhead
    cases c with
    | node => cases hc
    | leaf token' =>
      obtain rfl : token' = token := Option.some.inj hhead
      exact absurd hkind (by simpa [Tree.isComment] using hc)
  cases hct : t.isComment with
  | true =>
    cases hcu : u.isComment with
    | false => exact absurd tokens (hapart hct hu hcu)
    | true =>
      cases t with
      | node => cases hct
      | leaf token =>
        cases u with
        | node => cases hcu
        | leaf token' => exact ⟨congrArg (fun t => [t]) (List.cons.inj tokens).1, rfl⟩
  | false =>
    cases hcu : u.isComment with
    | true => exact absurd tokens.symm (hapart hcu ht hct)
    | false =>
      rw [siftedAll, siftedAll, if_neg (by simp [hct]), if_neg (by simp [hcu])] at sifted
      have hfilter := congrArg Tree.tokens (List.cons.inj sifted).1
      rw [tokens_sifted t hct, tokens_sifted u hcu] at hfilter
      refine ⟨eq_of_filter tokens hfilter ?_ ?_, rfl⟩
      · simpa using (ht.ends hct).2
      · simpa using (hu.ends hcu).2

mutual

/-- A phrase is told by its tokens and by what it is without comments. -/
theorem Found.eq_of_tokens : (t u : Tree) → t.Found → u.Found → t.sifted = u.sifted →
    t.tokens = u.tokens → t = u
  | .leaf _, _, _, _, sifted, _ => (eq_leaf_of_sifted sifted.symm).symm
  | .node _ _ children, u, ht, hu, hsifted, htokens => by
    obtain ⟨children', rfl, hchildren⟩ := exists_node_of_sifted hsifted.symm
    rw [Found.all_eq_of_tokens children children' ht.below.2 hu.below.2 hchildren.symm htokens]

theorem Found.all_eq_of_tokens : (a b : List Tree) → (∀ t ∈ a, t.Found) → (∀ t ∈ b, t.Found) →
    siftedAll a = siftedAll b → tokensOfAll a = tokensOfAll b → a = b
  | [], b, _, hb, hsifted, htokens => by
    cases b with
    | nil => rfl
    | cons u b =>
      have hcomment := isComment_of_siftedAll hsifted.symm u List.mem_cons_self
      cases u with
      | leaf => cases htokens
      | node => cases hcomment
  | t :: a, b, ha, hb, hsifted, htokens => by
    rw [List.forall_mem_cons] at ha
    have hparts : ∃ u b', b = u :: b' ∧ t.tokens = u.tokens ∧ t.isComment = u.isComment := by
      cases b with
      | nil =>
        have hcomment := isComment_of_siftedAll hsifted t List.mem_cons_self
        cases t with
        | leaf => cases htokens
        | node => cases hcomment
      | cons u b =>
        rw [List.forall_mem_cons] at hb
        exact ⟨u, b, rfl, tokens_eq_of_cons ha.1 hb.1 hsifted htokens⟩
    obtain ⟨u, b, rfl, hsame, hkind⟩ := hparts
    rw [List.forall_mem_cons] at hb
    have hrest : tokensOfAll a = tokensOfAll b := by
      rw [tokensOfAll, tokensOfAll, hsame] at htokens
      exact List.append_cancel_left htokens
    rw [siftedAll, siftedAll, ← hkind] at hsifted
    cases hc : t.isComment with
    | true =>
      rw [hc] at hkind hsifted
      cases t with
      | node => cases hc
      | leaf token =>
        cases u with
        | node => cases hkind
        | leaf token' =>
          rw [(List.cons.inj hsame).1, Found.all_eq_of_tokens a b ha.2 hb.2 hsifted hrest]
    | false =>
      rw [hc, if_neg (by simp), if_neg (by simp)] at hsifted
      obtain ⟨hhead, htail⟩ := List.cons.inj hsifted
      rw [Found.eq_of_tokens t u ha.1 hb.1 hhead hsame,
        Found.all_eq_of_tokens a b ha.2 hb.2 htail hrest]

end

theorem productions_vars : ∀ n ∈ Nonterminal.all, ∀ p ∈ productions n,
    (.terminal .kwVars ∈ Automaton.Reduction.children p → n = .varsDeclaration) ∧
      (.nonterminal .varsDeclaration ∈ Automaton.Reduction.children p → n = .program) := by
  decide +kernel

/-- The word that begins the declaration of the variables stands nowhere else. -/
theorem Spelt.vars {t : Tree} (h : t.Spelt) (inner : t.symbol ≠ .nonterminal .program) {token : Token}
    (mem : token ∈ t.tokens) (vars : token.kind = .kwVars) :
    t = .leaf token ∨ t.symbol = .nonterminal .varsDeclaration := by
  induction h with
  | leaf => exact .inl (congrArg Tree.leaf (List.mem_singleton.1 mem).symm)
  | @node n p children spelt symbols below ih =>
    rw [tokens, tokensOfAll_eq, List.mem_flatMap] at mem
    obtain ⟨c, hc, htoken⟩ := mem
    obtain ⟨hword, hdeclares⟩ := productions_vars n (Nonterminal.mem_all n) p spelt
    cases hcomment : c.isComment with
    | true =>
      cases c with
      | node => cases hcomment
      | leaf =>
        obtain rfl := List.mem_singleton.1 htoken
        simp [isComment, vars, Terminal.isComment] at hcomment
    | false =>
      have hsymbol := mem_structural hc hcomment
      rw [symbols] at hsymbol
      rcases ih c hc (ne_program_of_spelt spelt symbols hc hcomment) htoken with rfl | hvars
      · rw [symbol, vars] at hsymbol
        exact .inr (congrArg Symbol.nonterminal (hword hsymbol))
      · rw [hvars] at hsymbol
        exact absurd (congrArg Symbol.nonterminal (hdeclares hsymbol)) inner

theorem Found.nodes_ne_nil {t : Tree} (h : t.Found) (field : Option Field) (name : Option Alias) :
    t.nodes field name ≠ [] := by
  have htrimmed := h.trimmed
  induction htrimmed generalizing field name with
  | leaf => exact List.cons_ne_nil _ _
  | @node phrase layout children _ _ _ ih =>
    obtain ⟨inhabited, hbelow⟩ := h.below
    rw [nodes]
    split
    · obtain ⟨c, rest, rfl⟩ := List.exists_cons_of_ne_nil inhabited
      rw [nodesFrom]
      split <;> exact List.append_ne_nil_of_left_ne_nil
        (ih c List.mem_cons_self (hbelow c List.mem_cons_self) _ _) _
    · exact List.cons_ne_nil _ _

theorem nodesFrom_ne_nil {layout : Layout} {place : Nat} {children : List Tree}
    (inhabited : children ≠ []) (below : ∀ c ∈ children, c.Found) :
    nodesFrom layout place children ≠ [] := by
  obtain ⟨c, rest, rfl⟩ := List.exists_cons_of_ne_nil inhabited
  rw [nodesFrom]
  split <;> exact List.append_ne_nil_of_left_ne_nil
    ((below c List.mem_cons_self).nodes_ne_nil _ _) _

theorem nodesFrom_moved (start : Point) (layout : Layout) {children : List Tree}
    (below : ∀ c ∈ children, ∀ field name,
      (c.moved start).nodes field name = (c.nodes field name).map (·.moved start)) (place : Nat) :
    nodesFrom layout place (movedAll start children) =
      (nodesFrom layout place children).map (·.moved start) := by
  induction children generalizing place with
  | nil => rfl
  | cons c children ih =>
    rw [List.forall_mem_cons] at below
    rw [movedAll, nodesFrom, nodesFrom, isComment_moved]
    split <;> rw [List.map_append, below.1, ih below.2]

/-- A phrase that is moved shows as the nodes that are moved. -/
theorem Found.nodes_moved (start : Point) {t : Tree} (h : t.Found) (field : Option Field)
    (name : Option Alias) : (t.moved start).nodes field name =
      (t.nodes field name).map (·.moved start) := by
  have htrimmed := h.trimmed
  induction htrimmed generalizing field name with
  | leaf => rfl
  | @node phrase layout children _ _ _ ih =>
    obtain ⟨inhabited, hbelow⟩ := h.below
    have hinner := nodesFrom_moved start layout (fun c hc => ih c hc (hbelow c hc)) 0
    rw [Tree.moved, nodes, nodes, hinner]
    split
    · rfl
    · rw [List.map_singleton,
        Node.moved_spanning (nodesFrom_ne_nil inhabited hbelow) _ _ .origin .origin]

/-! ### Statements -/

mutual

/-- The trees that stand for a tree where the repetition of the statements does not show. -/
def unrolled : Tree → List Tree
  | .leaf token => [.leaf token]
  | .node phrase layout children =>
    if phrase = .statements then unrolledAll children else [.node phrase layout children]

/-- The trees that stand for some trees where the repetition of the statements does not show. -/
def unrolledAll : List Tree → List Tree
  | [] => []
  | t :: rest => t.unrolled ++ unrolledAll rest

end

theorem unrolledAll_eq (trees : List Tree) : unrolledAll trees = trees.flatMap unrolled := by
  induction trees with
  | nil => rfl
  | cons t trees ih => rw [unrolledAll, ih, List.flatMap_cons]

theorem unrolledAll_append (a b : List Tree) :
    unrolledAll (a ++ b) = unrolledAll a ++ unrolledAll b := by
  simp [unrolledAll_eq]

theorem unrolled_of_isComment {t : Tree} (h : t.isComment = true) : t.unrolled = [t] := by
  cases t with
  | leaf => rfl
  | node => cases h

mutual

theorem siftedAll_unrolled : (t : Tree) → t.isComment = false →
    siftedAll t.unrolled = t.sifted.unrolled
  | .leaf token, plain => by
    have hplain : ¬(leaf token).isComment = true := by simp [plain]
    rw [unrolled, siftedAll, if_neg hplain, sifted, unrolled, siftedAll]
  | .node phrase layout children, _ => by
    rw [unrolled, sifted, unrolled]
    split
    · exact siftedAll_unrolledAll children
    · simp [siftedAll, isComment, sifted]

theorem siftedAll_unrolledAll : (trees : List Tree) →
    siftedAll (unrolledAll trees) = unrolledAll (siftedAll trees)
  | [] => rfl
  | t :: rest => by
    rw [unrolledAll, siftedAll_append, siftedAll_unrolledAll rest, siftedAll]
    cases hc : t.isComment with
    | true => rw [unrolled_of_isComment hc, siftedAll_of_comments (by simpa using hc)]; rfl
    | false => rw [siftedAll_unrolled t hc, if_neg (by simp), unrolledAll]

theorem tokens_unrolled : (t : Tree) → tokensOfAll t.unrolled = t.tokens
  | .leaf token => rfl
  | .node phrase layout children => by
    rw [unrolled]
    split
    · exact tokens_unrolledAll children
    · simp [tokensOfAll]

theorem tokens_unrolledAll : (trees : List Tree) → tokensOfAll (unrolledAll trees) = tokensOfAll trees
  | [] => rfl
  | t :: rest => by
    rw [unrolledAll, tokensOfAll_eq, List.flatMap_append, ← tokensOfAll_eq, ← tokensOfAll_eq,
      tokens_unrolled t, tokens_unrolledAll rest, tokensOfAll]

end

mutual

theorem unrolled_moved (start : Point) : (t : Tree) →
    (t.moved start).unrolled = movedAll start t.unrolled
  | .leaf _ => rfl
  | .node phrase layout children => by
    rw [moved, unrolled, unrolled]
    split
    · exact unrolledAll_moved start children
    · rfl

theorem unrolledAll_moved (start : Point) : (trees : List Tree) →
    unrolledAll (movedAll start trees) = movedAll start (unrolledAll trees)
  | [] => rfl
  | t :: rest => by
    rw [movedAll, unrolledAll, unrolledAll, unrolled_moved start t, unrolledAll_moved start rest]
    simp [movedAll_eq]

end

mutual

theorem lone_unrolled : (t : Tree) → ((∃ c ∈ t.unrolled, c.Lone) ↔ t.Lone)
  | .leaf _ => by simp [unrolled]
  | .node phrase layout children => by
    rw [unrolled]
    split
    · next hphrase => rw [lone_node_iff (by simp [hphrase]), lone_unrolledAll children]
    · simp

/-- The repetition of the statements does not matter for whether a single remaining clause is read as an
allotment. -/
theorem lone_unrolledAll : (trees : List Tree) →
    ((∃ c ∈ unrolledAll trees, c.Lone) ↔ ∃ c ∈ trees, c.Lone)
  | [] => Iff.rfl
  | t :: rest => by
    simp only [unrolledAll, List.mem_append, or_and_right, exists_or, lone_unrolled t,
      lone_unrolledAll rest, List.exists_mem_cons_iff]

end

theorem lone_program_iff {children : List Tree} :
    (node .program .plain children).Lone ↔ ∃ c ∈ unrolledAll children, c.Lone := by
  rw [lone_node_iff (by decide), lone_unrolledAll]

theorem Found.unrolled {t : Tree} (h : t.Found) : ∀ c ∈ t.unrolled, c.Found := by
  have htrimmed := h.trimmed
  induction htrimmed with
  | leaf => simpa [Tree.unrolled] using h
  | @node phrase layout children _ _ _ ih =>
    rw [Tree.unrolled]
    split
    · intro c hc
      rw [unrolledAll_eq, List.mem_flatMap] at hc
      obtain ⟨d, hd, hc⟩ := hc
      exact ih d hd (h.below.2 d hd) c hc
    · simpa using h

theorem found_unrolledAll {trees : List Tree} (found : ∀ c ∈ trees, c.Found) :
    ∀ c ∈ unrolledAll trees, c.Found := by
  intro c hc
  rw [unrolledAll_eq, List.mem_flatMap] at hc
  obtain ⟨t, ht, hc⟩ := hc
  exact (found t ht).unrolled c hc

theorem nodesFrom_unrolled {children : List Tree}
    (below : ∀ c ∈ children, c.nodes none none = c.unrolled.flatMap (·.nodes none none)) (place : Nat) :
    nodesFrom .plain place children = (unrolledAll children).flatMap (·.nodes none none) := by
  induction children generalizing place with
  | nil => rfl
  | cons c children ih =>
    rw [List.forall_mem_cons] at below
    rw [nodesFrom, unrolledAll, List.flatMap_append, ← below.1, ih below.2, ih below.2]
    split <;> rfl

theorem Found.nodes_unrolled {t : Tree} (h : t.Found) :
    t.nodes none none = t.unrolled.flatMap (·.nodes none none) := by
  have hplain : ∀ p ∈ productions .statements, Automaton.rolesOf p = .plain := by decide +kernel
  have htrimmed := h.trimmed
  induction htrimmed with
  | leaf => rfl
  | @node phrase layout children _ _ _ ih =>
    rw [Tree.unrolled]
    split
    · next hphrase =>
      subst hphrase
      have hspelt := h.spelt
      obtain rfl : layout = .plain := by
        generalize ht : Tree.node .statements layout children = t at hspelt
        cases hspelt with
        | leaf => cases ht
        | @node n p _ spelt _ _ =>
          obtain ⟨rfl, rfl, -⟩ := Tree.node.inj ht
          exact hplain p spelt
      exact nodesFrom_unrolled (fun c hc => ih c hc (h.below.2 c hc)) 0
    · simp

end Numscript.Tree
