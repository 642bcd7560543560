import Numscript.Proofs.Parser.Settle

/-!
# Branches

What the machine makes of a viable stack before a token, step by step: the token is pushed, or a phrase
is completed and the branch goes on from there, or the program is accepted. Where a state both pushes
and reduces, a branch does the one or the other.
-/
namespace Numscript.Parser

open Automaton (Reduction leads? goto? reduction?)

/-- Comments on a stack, all behind the same state. -/
def strew (q : Nat) (comments : List Tree) : Stack := comments.map fun t => ⟨q, t⟩

theorem state_strew (q : Nat) (comments : List Tree) {stack : Stack} (h : stack.state = q) :
    Stack.state (strew q comments ++ stack) = q := by
  cases comments with
  | nil => exact h
  | cons t comments => rfl

@[simp] theorem state_strew_cons (q : Nat) (comments : List Tree) (tree : Tree) (stack : Stack) :
    Stack.state (strew q comments ++ ⟨q, tree⟩ :: stack) = q :=
  state_strew q comments rfl

theorem tree_strew (q : Nat) (comments : List Tree) : (strew q comments).map (·.tree) = comments := by
  simp [strew, Function.comp_def]

theorem isComment_strew {q : Nat} {comments : List Tree} (hc : ∀ t ∈ comments, t.isComment = true) :
    ∀ f ∈ strew q comments, f.tree.isComment = true := by
  intro f hf
  obtain ⟨t, ht, rfl⟩ := List.mem_map.1 hf
  exact hc t ht

/-- What a branch of the machine makes of a stack before a token. -/
inductive Settles (token : Token) : Stack → Ending → Prop where
  | pass {s : Stack} (comment : token.kind.isComment = true) :
      Settles token s (.pushed (⟨s.state, .leaf token⟩ :: s))
  | shift {s : Stack} {next : Nat} (plain : token.kind.isComment = false)
      (leads : leads? s.state (.terminal token.kind) = some next) :
      Settles token s (.pushed (⟨next, .leaf token⟩ :: s))
  | reduce {s kept : Stack} {r : Reduction} {e : Ending} (plain : token.kind.isComment = false)
      (asks : reduction? s.state token.kind = some r) (reduces : Reduces r s kept)
      (rest : Settles token kept e) : Settles token s e
  | accept {s upper lower : Stack} {layout : Layout} {children : List Tree}
      (final : s.state = Automaton.final) (kind : token.kind = .endOfText)
      (alone : s = upper ++ ⟨Automaton.final, .node .program layout children⟩ :: lower)
      (above : ∀ f ∈ upper, f.tree.isComment = true)
      (under : ∀ f ∈ lower, f.tree.isComment = true) :
      Settles token s (.accepted (.node .program layout
        ((lower.map (·.tree)).reverse ++ children ++ (upper.map (·.tree)).reverse)))

theorem Settles.of_completes {token : Token} {s t : Stack} {e : Ending} (hv : Viable s)
    (hc : Completes token s t) (h : Settles token t e) : Settles token s e :=
  hc.viable_induction_on hv h fun _ plain asks reduces _ later => .reduce plain asks reduces later

theorem Ends.settles {token : Token} {s : Stack} {e : Ending} (hv : Viable s)
    (h : Ends token s e) : Settles token s e := by
  cases h with
  | pushed pushes =>
    cases pushes with
    | @shift t u before hs =>
      refine .of_completes hv before ?_
      cases (hv.completes before).outcome_of_step hs with
      | shift plain leads _ => exact .shift plain leads
      | pass comment => exact .pass comment
    | @fork t u waiting before hs =>
      refine .of_completes hv before ?_
      cases (hv.completes before).outcome_of_step hs with
      | fork plain leads _ _ => exact .shift plain leads
  | @accepted t root before hs =>
    refine .of_completes hv before ?_
    cases (hv.completes before).outcome_of_step hs with
    | accept final kind alone above under => exact .accept final kind alone above under

theorem Reduces.unique {r : Reduction} {s t t' : Stack} (h : Reduces r s t) (h' : Reduces r s t') :
    t = t' := by
  obtain ⟨pop, leads, _⟩ := h
  obtain ⟨pop', leads', _⟩ := h'
  obtain ⟨rfl, rfl⟩ := Prod.mk.inj (Option.some.inj (pop.symm.trans pop'))
  rw [Option.some.inj (leads.symm.trans leads')]

/-- Where a state pushes a token, one step of the machine pushes it before anything else. -/
theorem Viable.step_of_leads {token : Token} {s : Stack} {next : Nat} (h : Viable s)
    (leads : leads? s.state (.terminal token.kind) = some next) (plain : token.kind.isComment = false) :
    step ground token s = .shifted (⟨next, .leaf token⟩ :: s) ∨
      ∃ kept, step ground token s = .forked (⟨next, .leaf token⟩ :: s) kept := by
  have hend : token.kind ≠ .endOfText := by
    intro hkind
    rw [hkind, Automaton.leads?_endOfText] at leads
    cases leads
  have ho := h.outcome token
  generalize hs : step ground token s = o at ho
  cases ho with
  | shift _ leads' =>
    obtain rfl := Option.some.inj (leads.symm.trans leads')
    exact .inl rfl
  | pass comment => simp [comment] at plain
  | reduce _ _ alone =>
    rw [leads] at alone
    cases alone
  | fork _ leads' =>
    obtain rfl := Option.some.inj (leads.symm.trans leads')
    exact .inr ⟨_, rfl⟩
  | accept _ kind => exact absurd kind hend
  | refuse nothing =>
    rw [Automaton.action?_of_plain h.state_ne_recovery plain (fun h => hend h.2), leads] at nothing
    cases hr : reduction? s.state token.kind <;> simp [hr] at nothing

theorem Viable.pushes_of_leads {token : Token} {s : Stack} {next : Nat} (h : Viable s)
    (leads : leads? s.state (.terminal token.kind) = some next) (plain : token.kind.isComment = false) :
    Pushes token s (⟨next, .leaf token⟩ :: s) := by
  rcases h.step_of_leads leads plain with hs | ⟨kept, hs⟩
  · exact .shift (.refl s) hs
  · exact .fork (.refl s) hs

/-- Where a state completes a phrase, one step of the machine completes it. -/
theorem Viable.completes_of_reduces {token : Token} {s kept : Stack} {r : Reduction} (h : Viable s)
    (plain : token.kind.isComment = false) (asks : reduction? s.state token.kind = some r)
    (reduces : Reduces r s kept) : Completes token s kept := by
  have hfinal : ¬(s.state = Automaton.final ∧ token.kind = .endOfText) := by
    rintro ⟨hfinal, hkind⟩
    have hnone : reduction? Automaton.final .endOfText = none := by decide +kernel
    rw [hfinal, hkind, hnone] at asks
    cases asks
  have ho := h.outcome token
  generalize hs : step ground token s = o at ho
  cases ho with
  | shift _ _ alone =>
    rw [asks] at alone
    cases alone
  | pass comment => simp [comment] at plain
  | reduce _ asks' _ reduces' =>
    obtain rfl := Option.some.inj (asks.symm.trans asks')
    obtain rfl := reduces.unique reduces'
    exact .reduce hs (.refl _)
  | fork _ _ asks' reduces' =>
    obtain rfl := Option.some.inj (asks.symm.trans asks')
    obtain rfl := reduces.unique reduces'
    exact .fork hs (.refl _)
  | accept final kind => exact absurd ⟨final, kind⟩ hfinal
  | refuse nothing =>
    rw [Automaton.action?_of_plain h.state_ne_recovery plain hfinal, asks] at nothing
    cases hl : leads? s.state (.terminal token.kind) <;> simp [hl] at nothing

theorem Settles.ends {token : Token} {s : Stack} {e : Ending} (h : Settles token s e)
    (hv : Viable s) : Ends token s e := by
  induction h with
  | @pass s comment =>
    have ho := hv.outcome token
    generalize hs : step ground token s = o at ho
    cases ho with
    | shift plain => simp [comment] at plain
    | pass => exact .pushed (.shift (.refl s) hs)
    | reduce plain => simp [comment] at plain
    | fork plain => simp [comment] at plain
    | accept _ kind => simp [kind, Terminal.isComment] at comment
    | refuse nothing =>
      rw [Automaton.action?, if_pos comment] at nothing
      cases nothing
  | shift plain leads => exact .pushed (hv.pushes_of_leads leads plain)
  | reduce plain asks reduces _ ih =>
    exact .before (hv.completes_of_reduces plain asks reduces) (ih (hv.of_reduces reduces))
  | @accept s upper lower layout children final kind alone above under =>
    have hact : Automaton.action? s.state token.kind = some .accept := by
      rw [final, kind, Automaton.action?_final]
    refine .accepted (.refl s) ?_
    simp only [step, Stack.top?_ground, hact]
    rw [alone, root?_program under]
    rfl

theorem Viable.settles {token : Token} {s t : Stack} (h : Viable s)
    (hs : Settles token s (.pushed t)) : Viable t := by
  generalize he : Ending.pushed t = e at hs
  induction hs with
  | pass comment =>
    cases he
    exact h.pass comment
  | shift plain leads =>
    cases he
    exact h.push plain leads
  | reduce _ _ reduces _ ih => exact ih (h.of_reduces reduces) he
  | accept => cases he

/-- What is popped are the frames on top, down to the one that completes the number. -/
theorem Stack.pop_taken {mid rest : Stack} {last : Frame} {count : Nat} {above : List Tree}
    (hlast : last.tree.isComment = false) (hcount : mid.plain.length + 1 = count) :
    (mid ++ last :: rest).pop count above =
      some (last.tree :: (mid.map (·.tree)).reverse ++ above, rest) := by
  subst hcount
  induction mid generalizing above with
  | nil =>
    rw [List.nil_append, Stack.pop, if_neg (by simp [hlast]), Stack.plain, List.filter_nil,
      List.length_nil, Stack.pop]
    rfl
  | cons f mid ih =>
    rw [List.cons_append, Stack.pop]
    by_cases hf : f.tree.isComment = true
    · have hplain : Stack.plain (f :: mid) = Stack.plain mid := by simp [Stack.plain, hf]
      rw [if_pos hf, hplain, ih]
      simp
    · have hplain : Stack.plain (f :: mid) = f :: Stack.plain mid := by simp [Stack.plain, hf]
      rw [if_neg hf, hplain, List.length_cons, ih]
      simp

theorem bare_strew {q : Nat} {comments : List Tree} {stack : Stack}
    (hc : ∀ t ∈ comments, t.isComment = true) (hs : ∀ f ∈ stack.head?, f.tree.isComment = false) :
    Stack.bare (strew q comments ++ stack) = stack := by
  rw [Stack.bare, List.dropWhile_append_of_pos (isComment_strew hc)]
  cases stack with
  | nil => rfl
  | cons f stack => exact List.dropWhile_cons_of_neg (by simp [hs f rfl])

theorem comments_strew {q : Nat} {comments : List Tree} {stack : Stack}
    (hc : ∀ t ∈ comments, t.isComment = true) (hs : ∀ f ∈ stack.head?, f.tree.isComment = false) :
    Stack.comments (strew q comments ++ stack) = strew q comments := by
  rw [Stack.comments, List.takeWhile_append_of_pos (isComment_strew hc)]
  cases stack with
  | nil => simp
  | cons f stack => rw [List.takeWhile_cons_of_neg (by simp [hs f rfl]), List.append_nil]

/-- A reduction leaves the comments on top where they are. -/
theorem Reduces.of_strew {r : Reduction} {q : Nat} {comments : List Tree} {stack kept : Stack}
    (hc : ∀ t ∈ comments, t.isComment = true) (hs : ∀ f ∈ stack.head?, f.tree.isComment = false)
    (h : Reduces r (strew q comments ++ stack) kept) : ∃ children rest next,
      stack.pop r.arity [] = some (children, rest) ∧ goto? rest.state r.phrase = some next ∧
        kept = strew next comments ++ ⟨next, .node r.phrase r.layout children⟩ :: rest := by
  obtain ⟨pop, leads, _⟩ := h
  rw [bare_strew hc hs] at pop
  refine ⟨_, _, _, pop, leads, ?_⟩
  rw [comments_strew hc hs]
  simp [strew, Function.comp_def]

/-- What a reduction makes of a stack whose children are known. -/
theorem Reduces.eq_of_taken {r : Reduction} {q : Nat} {comments : List Tree} {mid rest kept : Stack}
    {last : Frame} (hc : ∀ t ∈ comments, t.isComment = true)
    (hmid : ∀ f ∈ mid.head?, f.tree.isComment = false) (hlast : last.tree.isComment = false)
    (hcount : mid.plain.length + 1 = r.arity)
    (h : Reduces r (strew q comments ++ (mid ++ last :: rest)) kept) :
    ∃ next, goto? rest.state r.phrase = some next ∧ kept = strew next comments ++
      ⟨next, .node r.phrase r.layout (last.tree :: (mid.map (·.tree)).reverse)⟩ :: rest := by
  have htop : ∀ f ∈ (mid ++ last :: rest).head?, f.tree.isComment = false := by
    cases mid with
    | nil => simpa using hlast
    | cons g mid => simpa using hmid
  obtain ⟨children, rest', next, pop, leads, rfl⟩ := h.of_strew hc htop
  rw [Stack.pop_taken hlast hcount, List.append_nil] at pop
  obtain ⟨rfl, rfl⟩ := Prod.mk.inj (Option.some.inj pop)
  exact ⟨next, leads, rfl⟩

/-- A reduction of a phrase with a single child. -/
theorem Reduces.eq_of_single {r : Reduction} {q : Nat} {comments : List Tree} {rest kept : Stack}
    {f : Frame} (hc : ∀ t ∈ comments, t.isComment = true) (hf : f.tree.isComment = false)
    (hcount : r.arity = 1) (h : Reduces r (strew q comments ++ f :: rest) kept) :
    ∃ next, goto? rest.state r.phrase = some next ∧
      kept = strew next comments ++ ⟨next, .node r.phrase r.layout [f.tree]⟩ :: rest := by
  have hnone : ∀ g ∈ ([] : Stack).head?, g.tree.isComment = false := by simp
  exact @Reduces.eq_of_taken _ _ _ [] _ _ _ hc hnone hf hcount.symm h

end Numscript.Parser
