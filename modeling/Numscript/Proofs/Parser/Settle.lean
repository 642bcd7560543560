import Numscript.Parser.Machine
import Numscript.Proofs.Parser.Viable

/-!
# Settling a stack

What a step makes of the upper part of a stack does not depend on the part below it, as long as it is
not short of it. And no stack can be reduced forever before one token: a reduction takes several
phrases off the stack, or it stands for a phrase of a higher rank over the one it takes.
-/
namespace Numscript

/-- How many phrases with a single child can stand over each other below a symbol. -/
def Symbol.rank : Symbol → Nat
  | .nonterminal n =>
    match n with
    | .application | .fnCallStatement | .srcClauses | .destClauses | .inOrderClauses
    | .varDeclarations | .keptOrDestination => 2
    | .valueExpr | .statement => 3
    | .statements | .sentValue | .srcAccount | .destAccount | .portionedAllotment
    | .functionCallArgs => 4
    | .program | .source | .destination | .allotment => 5
    | .sources => 6
    | _ => 1
  | _ => 0

theorem Symbol.rank_le (x : Symbol) : x.rank ≤ 54 := by
  unfold rank
  repeat' split
  all_goals decide

namespace Parser

open Automaton (Reduction leads? goto? reduction?)

/-- The outcome of a step on the upper part of a stack, for the whole stack. -/
def Step.over (lower : Stack) : Step → Step
  | .shifted stack => .shifted (stack ++ lower)
  | .reduced stack => .reduced (stack ++ lower)
  | .forked pushed kept => .forked (pushed ++ lower) (kept ++ lower)
  | other => other

theorem Stack.bare_append {upper : Stack} (h : upper.bare ≠ []) (lower : Stack) :
    (upper ++ lower).bare = upper.bare ++ lower := by
  have hne : (upper.dropWhile (·.tree.isComment)).isEmpty = false :=
    List.isEmpty_eq_false_iff.2 h
  rw [Stack.bare, List.dropWhile_append, hne]
  rfl

theorem Stack.comments_append {upper : Stack} (h : upper.bare ≠ []) (lower : Stack) :
    (upper ++ lower).comments = upper.comments := by
  have hlength := congrArg List.length upper.comments_append_bare
  have hpos := List.length_pos_iff.2 h
  rw [List.length_append] at hlength
  have hne : (upper.takeWhile (·.tree.isComment)).length ≠ upper.length := by
    rw [← Stack.comments]
    omega
  rw [Stack.comments, List.takeWhile_append, if_neg hne]
  rfl

theorem Stack.pop_append {count : Nat} {upper rest : Stack} {above children : List Tree}
    (h : upper.pop count above = some (children, rest)) (lower : Stack) :
    (upper ++ lower).pop count above = some (children, rest ++ lower) := by
  induction upper generalizing count above with
  | nil =>
    cases count with
    | zero =>
      rw [Stack.pop] at h ⊢
      cases h
      rfl
    | succ count => cases h
  | cons f upper ih =>
    cases count with
    | zero =>
      rw [Stack.pop] at h ⊢
      cases h
      rfl
    | succ count =>
      rw [Stack.pop] at h
      rw [List.cons_append, Stack.pop]
      split at h
      · next hc =>
        rw [if_pos hc]
        exact ih h
      · next hc =>
        rw [if_neg hc]
        exact ih h

/-- A reduction takes its children off the stack below the comments that end it. -/
theorem reduce_eq (below : Option Nat) (r : Reduction) (stack : Stack) :
    reduce below r stack = match stack.bare.pop r.arity [] with
      | none => if below.isSome then .stuck else .short
      | some (children, rest) =>
        match rest.top? below with
        | none => .short
        | some q =>
          match goto? q r.phrase with
          | none => .stuck
          | some next => .reduced (stack.comments.map (fun c => { c with state := next }) ++
              ⟨next, .node r.phrase r.layout children⟩ :: rest) := rfl

theorem reduce_append {r : Reduction} {upper : Stack} (lower : Stack)
    (h : reduce none r upper ≠ .short) :
    reduce ground r (upper ++ lower) = (reduce none r upper).over lower := by
  rw [reduce_eq none] at h ⊢
  cases hpop : upper.bare.pop r.arity [] with
  | none => simp [hpop] at h
  | some popped =>
    obtain ⟨children, rest⟩ := popped
    cases rest with
    | nil => simp [hpop, Stack.top?] at h
    | cons f rest =>
      obtain ⟨taken, hbare, _⟩ := Stack.pop_eq_some hpop
      have hne : upper.bare ≠ [] := by
        rw [hbare]
        simp
      have hwhole := Stack.pop_append hpop lower
      rw [← Stack.bare_append hne] at hwhole
      have hcomments := Stack.comments_append hne lower
      rw [Stack.bare] at hwhole
      rw [Stack.comments] at hcomments
      simp only [reduce, hwhole, hcomments, Stack.top?, List.cons_append]
      cases goto? f.state r.phrase with
      | none => rfl
      | some next =>
        simp only [Step.over, List.append_assoc]
        rfl

/-- A step that is not short of the lower part of a stack does not depend on it. -/
theorem step_append {token : Token} {upper : Stack} (lower : Stack)
    (h : step none token upper ≠ .short) :
    step ground token (upper ++ lower) = (step none token upper).over lower := by
  cases upper with
  | nil => exact absurd rfl h
  | cons f upper =>
    simp only [step, Stack.top?, List.cons_append] at h ⊢
    cases haction : Automaton.action? f.state token.kind with
    | none => rfl
    | some action =>
      cases action with
      | shift next => rfl
      | pass => rfl
      | reduce r =>
        simp only [haction] at h ⊢
        exact reduce_append lower h
      | both next r =>
        simp only [haction] at h ⊢
        have hreduce : reduce none r (f :: upper) ≠ .short := by
          intro hshort
          rw [hshort] at h
          exact h rfl
        have hwhole := reduce_append lower hreduce
        rw [List.cons_append] at hwhole
        rw [hwhole]
        cases reduce none r (f :: upper) <;> rfl
      | accept =>
        simp only [haction] at h
        exact absurd rfl h
      | recover => rfl

/-- A phrase with a single child has a higher rank, and only the program can be empty. -/
def ranks (r : Reduction) : Bool :=
  match r.arity with
  | 0 => r.phrase = .program
  | 1 => (r.column 0).all fun x => x.rank < (Symbol.nonterminal r.phrase).rank
  | _ => true

theorem ranks_of_mem : ∀ page ∈ Automaton.pages, ∀ s ∈ page, ∀ r ∈ s.reductions,
    ranks r.1 = true := by
  decide +kernel

theorem ranks_of_reduction {q : Nat} {t : Terminal} {r : Reduction} (h : reduction? q t = some r) :
    ranks r = true := by
  obtain ⟨s, hs, hr⟩ := Option.bind_eq_some_iff.1 h
  obtain ⟨page, hpage, hin⟩ := Automaton.mem_pages_of_state? hs
  obtain ⟨before, hmem, _⟩ := Automaton.State.mem_reductions hr
  exact ranks_of_mem page hpage s hin _ hmem

/-- What every reduction makes less: the phrases of a stack, and below that the rank of the last. -/
def Stack.potential (stack : Stack) : Nat :=
  match stack.plain with
  | [] => 110
  | f :: rest => 55 * (rest.length + 1) + (54 - f.tree.symbol.rank)

theorem Stack.potential_pos (stack : Stack) : 0 < stack.potential := by
  unfold potential
  split <;> omega

theorem Stack.potential_le (stack : Stack) : stack.potential ≤ reductionBound stack := by
  have hcount : Nonterminal.all.length + 1 = 55 := by decide
  have hplain : stack.plain.length ≤ stack.length := List.length_filter_le ..
  unfold potential reductionBound
  rw [hcount]
  split
  · omega
  · next f rest h =>
    rw [h, List.length_cons] at hplain
    omega

theorem structural_of_taken (taken : Stack) :
    Tree.structural (taken.map (·.tree)).reverse = (taken.plain.map (·.tree.symbol)).reverse := by
  rw [Tree.structural, List.filter_reverse, List.map_reverse, List.filter_map, List.map_map]
  rfl

theorem reduce_eq_reduced {below : Option Nat} {r : Reduction} {stack kept : Stack}
    (h : reduce below r stack = .reduced kept) :
    ∃ children rest next, stack.bare.pop r.arity [] = some (children, rest) ∧
      kept = stack.comments.map (fun f => { f with state := next }) ++
        ⟨next, .node r.phrase r.layout children⟩ :: rest := by
  rw [reduce_eq] at h
  cases hpop : stack.bare.pop r.arity [] with
  | none =>
    simp only [hpop] at h
    split at h <;> cases h
  | some popped =>
    obtain ⟨children, rest⟩ := popped
    cases htop : rest.top? below with
    | none => simp [hpop, htop] at h
    | some q =>
      cases hgoto : goto? q r.phrase with
      | none => simp [hpop, htop, hgoto] at h
      | some next =>
        simp only [hpop, htop, hgoto, Step.reduced.injEq] at h
        exact ⟨children, rest, next, rfl, h.symm⟩

theorem eq_start_of_arity {q : Nat} {t : Terminal} {r : Reduction} (h : reduction? q t = some r)
    (harity : r.arity = 0) : q = Automaton.start := by
  have hphrase : r.phrase = .program := by simpa [ranks, harity] using ranks_of_reduction h
  obtain ⟨behind, hbehind⟩ := (Automaton.reducesWell_of_reduction h).2.2 harity
  obtain ⟨s, hs, _⟩ := Option.bind_eq_some_iff.1 h
  rw [hphrase] at hbehind
  refine (Automaton.goto_program _ (Automaton.lt_stateCount_of_state? hs)).resolve_left ?_
  rw [hbehind]
  nofun

/-- A child that makes up a phrase alone has a lower rank than the phrase. -/
theorem rank_lt_of_fill {q : Nat} {t : Terminal} {r : Reduction} {children : List Tree} {x : Symbol}
    (h : reduction? q t = some r) (harity : r.arity = 1) (fill : Fill r r.arity children)
    (single : Tree.structural children = [x]) : x.rank < (Symbol.nonterminal r.phrase).rank := by
  have hall : ∀ x ∈ r.column 0, x.rank < (Symbol.nonterminal r.phrase).rank := by
    simpa [ranks, harity] using ranks_of_reduction h
  rw [Fill, single, harity] at fill
  exact hall x (by simpa using fill)

/-- A reduction makes the potential less. -/
theorem Viable.potential_lt {upper lower kept : Stack} {t : Terminal} {r : Reduction}
    {below : Option Nat} (h : Viable (upper ++ lower))
    (hr : reduction? (upper ++ lower).state t = some r)
    (hkept : Parser.reduce below r upper = .reduced kept) : kept.potential < upper.potential := by
  obtain ⟨children, rest, next, hpop, rfl⟩ := reduce_eq_reduced hkept
  obtain ⟨taken, hbare, hchildren, hcount⟩ := Stack.pop_eq_some hpop
  have hplain : upper.plain = Stack.plain taken ++ Stack.plain rest := by
    rw [← Stack.bare_plain, hbare, Stack.plain_append]
  have htaken : (Stack.plain taken).length = r.arity := hcount
  rw [Stack.potential, Stack.plain_restated _ _ rfl]
  cases harity : r.arity with
  | zero =>
    have hupper : upper.plain = [] := Stack.plain_of_comments fun f hf =>
      h.comments_of_start (eq_start_of_arity hr harity) f (List.mem_append_left _ hf)
    have hrest : Stack.plain rest = [] := (List.append_eq_nil_iff.1 (hplain.symm.trans hupper)).2
    rw [Stack.potential, hupper, hrest]
    simp only [List.length_nil]
    omega
  | succ count =>
    rw [harity] at htaken
    obtain ⟨f, more, hmore⟩ := List.exists_cons_of_length_eq_add_one htaken
    rw [hmore, List.cons_append] at hplain
    rw [Stack.potential, hplain]
    simp only [List.length_append]
    rw [hmore, List.length_cons] at htaken
    cases count with
    | zero =>
      obtain rfl : more = [] := List.length_eq_zero_iff.1 (Nat.succ.inj htaken)
      obtain ⟨_, _, hreduces⟩ := h.reduce hr
      obtain ⟨pop, _, fill⟩ := hreduces
      have hne : upper.bare ≠ [] := by
        rintro hnil
        rw [hnil, harity] at hpop
        cases hpop
      rw [Stack.bare_append hne, Stack.pop_append hpop lower] at pop
      obtain ⟨rfl, -⟩ := Prod.mk.inj (Option.some.inj pop)
      have hsingle : Tree.structural children = [f.tree.symbol] := by
        rw [hchildren, List.append_nil, structural_of_taken, hmore]
        rfl
      have hrank := rank_lt_of_fill hr harity fill hsingle
      have hle := Symbol.rank_le (.nonterminal r.phrase)
      have hsymbol : (Tree.node r.phrase r.layout children).symbol = .nonterminal r.phrase := rfl
      rw [hsymbol, List.length_nil]
      omega
    | succ count => omega

/-- The ending of the upper part of a stack, for the whole stack. -/
def Ending.over (lower : Stack) : Ending → Ending
  | .pushed stack => .pushed (stack ++ lower)
  | other => other

theorem reduce_cases (below : Option Nat) (r : Reduction) (stack : Stack) :
    reduce below r stack = .short ∨ reduce below r stack = .stuck ∨
      ∃ kept, reduce below r stack = .reduced kept := by
  unfold reduce
  split
  · split
    · exact .inr (.inl rfl)
    · exact .inl rfl
  · split
    · exact .inl rfl
    · split
      · exact .inr (.inl rfl)
      · exact .inr (.inr ⟨_, rfl⟩)

theorem step_eq_reduced {below : Option Nat} {token : Token} {stack kept : Stack}
    (h : step below token stack = .reduced kept) :
    ∃ q r, stack.top? below = some q ∧ reduction? q token.kind = some r ∧
      reduce below r stack = .reduced kept := by
  unfold step at h
  split at h
  · cases h
  · next q htop =>
    split at h
    · cases h
    · cases h
    · cases h
    · next r haction => exact ⟨q, r, htop, Automaton.reduction?_of_asks (.inl haction), h⟩
    · next next r haction =>
      rcases reduce_cases below r stack with hred | hred | ⟨kept', hred⟩ <;> simp [hred] at h
    · split at h <;> cases h
    · cases h

theorem step_eq_forked {below : Option Nat} {token : Token} {stack pushed kept : Stack}
    (h : step below token stack = .forked pushed kept) :
    ∃ q r, stack.top? below = some q ∧ reduction? q token.kind = some r ∧
      reduce below r stack = .reduced kept := by
  unfold step at h
  split at h
  · cases h
  · next q htop =>
    split at h
    · cases h
    · cases h
    · cases h
    · next r haction =>
      rcases reduce_cases below r stack with hred | hred | ⟨kept', hred⟩ <;> simp [hred] at h
    · next next r haction =>
      refine ⟨q, r, htop, Automaton.reduction?_of_asks (.inr ⟨next, haction⟩), ?_⟩
      rcases reduce_cases below r stack with hred | hred | ⟨kept', hred⟩ <;> simp [hred] at h
      rw [hred, h.2]
    · split at h <;> cases h
    · cases h

theorem Stack.state_append {upper : Stack} {q : Nat} (h : upper.top? none = some q)
    (lower : Stack) : (upper ++ lower).state = q := by
  cases upper with
  | nil => cases h
  | cons f upper => exact Option.some.inj h

/-- A step that completes a phrase makes the potential less, on a whole stack or its upper part. -/
theorem Viable.potential_lt_of_step {below : Option Nat} {token : Token}
    {upper lower kept : Stack} (h : Viable (upper ++ lower))
    (hbelow : below = none ∨ below = ground ∧ lower = [])
    (hs : step below token upper = .reduced kept ∨
      ∃ pushed, step below token upper = .forked pushed kept) :
    kept.potential < upper.potential := by
  have hasks : ∃ q r, upper.top? below = some q ∧ reduction? q token.kind = some r ∧
      Parser.reduce below r upper = .reduced kept := by
    rcases hs with hs | ⟨pushed, hs⟩
    · exact step_eq_reduced hs
    · exact step_eq_forked hs
  obtain ⟨q, r, htop, hask, hred⟩ := hasks
  have hstate : (upper ++ lower).state = q := by
    rcases hbelow with rfl | ⟨rfl, rfl⟩
    · exact Stack.state_append htop lower
    · rw [Stack.top?_ground] at htop
      rw [List.append_nil]
      exact Option.some.inj htop
  rw [← hstate] at hask
  exact h.potential_lt hask hred

/-- A step that completes a phrase on a whole stack makes its potential less. -/
theorem Viable.potential_lt_of_reduced {token : Token} {s t : Stack} (h : Viable s)
    (hs : step ground token s = .reduced t ∨ ∃ pushed, step ground token s = .forked pushed t) :
    t.potential < s.potential := by
  have hself : Viable (s ++ []) := by rwa [List.append_nil]
  exact hself.potential_lt_of_step (.inr ⟨rfl, rfl⟩) hs

/--
With enough fuel, a stack settles as its upper part does, unless that is short of the lower part.
-/
theorem Viable.settle_append {token : Token} {upper lower : Stack} {fuel fuel' : Nat}
    (h : Viable (upper ++ lower)) (hfuel : upper.potential ≤ fuel)
    (hfuel' : (upper ++ lower).potential ≤ fuel')
    (hshort : ∀ e ∈ settle none token fuel upper, e ≠ .short) :
    settle ground token fuel' (upper ++ lower) =
      (settle none token fuel upper).map (Ending.over lower) := by
  induction fuel generalizing upper fuel' with
  | zero => exact absurd hfuel (Nat.not_le.2 upper.potential_pos)
  | succ fuel ih =>
    cases fuel' with
    | zero => exact absurd hfuel' (Nat.not_le.2 (upper ++ lower).potential_pos)
    | succ fuel' =>
      have hstep : step none token upper ≠ .short := by
        intro hs
        rw [settle, hs] at hshort
        exact hshort .short (List.mem_singleton.2 rfl) rfl
      have hwhole := step_append lower hstep
      rw [settle] at hshort
      rw [settle, settle, hwhole]
      cases hs : step none token upper with
      | shifted t => rfl
      | accepted root => rfl
      | refused => rfl
      | stuck => rfl
      | short => exact absurd hs hstep
      | reduced t =>
        rw [hs] at hshort hwhole
        have hlt := h.potential_lt_of_step (.inl rfl) (.inl hs)
        have hlt' := h.potential_lt_of_reduced (.inl hwhole)
        exact ih (h.reduced hwhole) (by omega) (by omega) hshort
      | forked pushed kept =>
        rw [hs] at hshort hwhole
        have hlt := h.potential_lt_of_step (.inl rfl) (.inr ⟨pushed, hs⟩)
        have hlt' := h.potential_lt_of_reduced (.inr ⟨_, hwhole⟩)
        have hkept : settle ground token fuel' (kept ++ lower) =
            (settle none token fuel kept).map (Ending.over lower) :=
          ih (h.forked hwhole).2 (by omega) (by omega)
            fun e he => hshort e (List.mem_cons_of_mem _ he)
        simp only [Step.over, List.map_cons, hkept]
        rfl

theorem Completes.trans {token : Token} {s t u : Stack} (h : Completes token s t)
    (h' : Completes token t u) : Completes token s u := by
  induction h with
  | refl => exact h'
  | reduce hs _ ih => exact .reduce hs (ih h')
  | fork hs _ ih => exact .fork hs (ih h')

/-- What the machine can make of a stack before a token: push it, or accept the program. -/
inductive Ends (token : Token) (s : Stack) : Ending → Prop where
  | pushed {t : Stack} (pushes : Pushes token s t) : Ends token s (.pushed t)
  | accepted {t : Stack} {root : Tree} (before : Completes token s t)
      (h : step ground token t = .accepted root) : Ends token s (.accepted root)

theorem Ends.before {token : Token} {s t : Stack} {e : Ending} (h : Completes token s t)
    (he : Ends token t e) : Ends token s e := by
  cases he with
  | pushed pushes =>
    cases pushes with
    | shift before hs => exact .pushed (.shift (h.trans before) hs)
    | fork before hs => exact .pushed (.fork (h.trans before) hs)
  | accepted before hs => exact .accepted (h.trans before) hs

theorem ends_of_mem_settle {token : Token} {fuel : Nat} {s : Stack} {e : Ending}
    (h : e ∈ settle ground token fuel s) : e = .failed ∨ e = .short ∨ Ends token s e := by
  induction fuel generalizing s with
  | zero => exact .inl (List.mem_singleton.1 h)
  | succ fuel ih =>
    rw [settle] at h
    cases hs : step ground token s with
    | shifted t =>
      rw [hs] at h
      obtain rfl := List.mem_singleton.1 h
      exact .inr (.inr (.pushed (.shift (.refl s) hs)))
    | reduced t =>
      rw [hs] at h
      rcases ih h with hf | hf | hf
      · exact .inl hf
      · exact .inr (.inl hf)
      · exact .inr (.inr (hf.before (.reduce hs (.refl t))))
    | forked pushed kept =>
      rw [hs] at h
      rcases List.mem_cons.1 h with rfl | h
      · exact .inr (.inr (.pushed (.fork (.refl s) hs)))
      · rcases ih h with hf | hf | hf
        · exact .inl hf
        · exact .inr (.inl hf)
        · exact .inr (.inr (hf.before (.fork hs (.refl kept))))
    | accepted root =>
      rw [hs] at h
      obtain rfl := List.mem_singleton.1 h
      exact .inr (.inr (.accepted (.refl s) hs))
    | refused =>
      rw [hs] at h
      exact .inl (List.mem_singleton.1 h)
    | stuck =>
      rw [hs] at h
      exact .inl (List.mem_singleton.1 h)
    | short =>
      rw [hs] at h
      exact .inr (.inl (List.mem_singleton.1 h))

/-- With enough fuel, what a stack settles to after some reductions it settles to at once. -/
theorem Viable.settle_completes {token : Token} {s t : Stack} (h : Viable s)
    (hc : Completes token s t) {fuel : Nat} (hfuel : s.potential ≤ fuel) :
    ∃ fuel', t.potential ≤ fuel' ∧
      ∀ e ∈ settle ground token fuel' t, e ∈ settle ground token fuel s := by
  induction hc generalizing fuel with
  | refl s => exact ⟨fuel, hfuel, fun _ he => he⟩
  | @reduce s t u hs _ ih =>
    cases fuel with
    | zero => exact absurd hfuel (Nat.not_le.2 s.potential_pos)
    | succ fuel =>
      have hlt := h.potential_lt_of_reduced (.inl hs)
      obtain ⟨fuel', hle, hall⟩ := ih (h.reduced hs) (by omega : t.potential ≤ fuel)
      refine ⟨fuel', hle, fun e he => ?_⟩
      rw [settle, hs]
      exact hall e he
  | @fork s pushed t u hs _ ih =>
    cases fuel with
    | zero => exact absurd hfuel (Nat.not_le.2 s.potential_pos)
    | succ fuel =>
      have hlt := h.potential_lt_of_reduced (.inr ⟨pushed, hs⟩)
      obtain ⟨fuel', hle, hall⟩ := ih (h.forked hs).2 (by omega : t.potential ≤ fuel)
      refine ⟨fuel', hle, fun e he => ?_⟩
      rw [settle, hs]
      exact List.mem_cons_of_mem _ (hall e he)

/-- With enough fuel, all that the machine can make of a stack is among its endings. -/
theorem Viable.mem_settle {token : Token} {s : Stack} {e : Ending} (h : Viable s)
    (he : Ends token s e) {fuel : Nat} (hfuel : s.potential ≤ fuel) :
    e ∈ settle ground token fuel s := by
  have hfirst : ∃ t, Completes token s t ∧ ∀ fuel, e ∈ settle ground token (fuel + 1) t := by
    cases he with
    | pushed pushes =>
      cases pushes with
      | @shift t u before hs =>
        refine ⟨t, before, fun fuel => ?_⟩
        rw [settle, hs]
        exact List.mem_singleton.2 rfl
      | @fork t u waiting before hs =>
        refine ⟨t, before, fun fuel => ?_⟩
        rw [settle, hs]
        exact List.mem_cons_self
    | @accepted t root before hs =>
      refine ⟨t, before, fun fuel => ?_⟩
      rw [settle, hs]
      exact List.mem_singleton.2 rfl
  obtain ⟨t, hbefore, hmem⟩ := hfirst
  obtain ⟨fuel', hle, hall⟩ := h.settle_completes hbefore hfuel
  cases fuel' with
  | zero => exact absurd hle (Nat.not_le.2 t.potential_pos)
  | succ fuel' => exact hall e (hmem fuel')

end Parser
end Numscript
