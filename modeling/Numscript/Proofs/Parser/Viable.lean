import Numscript.Proofs.Automaton.Goal
import Numscript.Parser.Machine

/-!
# Viable stacks

A stack is viable when its states are a walk along the edges of the automaton, from the first state
up, with comments anywhere between them. Every stack that the parser comes to is viable, and on a
viable stack a reduction always succeeds: the children it asks for are there, they are of kinds that
make up a production, and the complete phrase leads on.
-/
namespace Numscript

/-- The symbols of the trees that are no comments. -/
def Tree.structural (trees : List Tree) : List Symbol :=
  (trees.filter fun t => !t.isComment).map Tree.symbol

theorem Tree.structural_comment {t : Tree} (h : t.isComment = true) (trees : List Tree) :
    structural (t :: trees) = structural trees := by
  simp [structural, h]

theorem Tree.structural_cons {t : Tree} (h : t.isComment = false) (trees : List Tree) :
    structural (t :: trees) = t.symbol :: structural trees := by
  simp [structural, h]

theorem Tree.structural_append (a b : List Tree) :
    structural (a ++ b) = structural a ++ structural b := by
  simp [structural]

namespace Parser

open Automaton (Reduction Goal goals leads? goto? reduction?)

/-- The state on top of a whole stack. -/
def Stack.state : Stack → Nat
  | [] => Automaton.start
  | f :: _ => f.state

@[simp] theorem Stack.top?_ground (stack : Stack) : stack.top? ground = some stack.state := by
  cases stack <;> rfl

/-- The states of the stack are a walk along the edges of the automaton. -/
inductive Viable : Stack → Prop where
  | empty : Viable []
  | comment {stack : Stack} {tree : Tree} (below : Viable stack) (h : tree.isComment = true) :
      Viable (⟨stack.state, tree⟩ :: stack)
  | read {stack : Stack} {tree : Tree} {next : Nat} (below : Viable stack)
      (h : tree.isComment = false) (leads : leads? stack.state tree.symbol = some next) :
      Viable (⟨next, tree⟩ :: stack)

theorem Viable.tail {f : Frame} {stack : Stack} (h : Viable (f :: stack)) : Viable stack := by
  cases h with
  | comment below _ => exact below
  | read below _ _ => exact below

theorem Viable.state_ne_recovery {stack : Stack} (h : Viable stack) :
    stack.state ≠ Automaton.recovery := by
  induction h with
  | empty => decide
  | comment _ _ ih => exact ih
  | read _ _ leads => exact Automaton.leads?_ne_recovery leads

theorem Viable.of_append {upper lower : Stack} (h : Viable (upper ++ lower)) : Viable lower := by
  induction upper with
  | nil => exact h
  | cons f upper ih => exact ih h.tail

theorem Viable.exists_state {stack : Stack} (h : Viable stack) :
    ∃ s, Automaton.state? stack.state = some s := by
  induction h with
  | empty => exact ⟨_, rfl⟩
  | comment _ _ ih => exact ih
  | read _ _ leads _ =>
    obtain ⟨_, s, _, hs, _⟩ := Automaton.leads?_advances leads
    exact ⟨s, hs⟩

theorem Viable.state_lt {stack : Stack} (h : Viable stack) :
    stack.state < Automaton.stateCount := by
  obtain ⟨s, hs⟩ := h.exists_state
  exact Automaton.lt_stateCount_of_state? hs

theorem Viable.states_lt {stack : Stack} (h : Viable stack) :
    ∀ f ∈ stack, f.state < Automaton.stateCount := by
  induction stack with
  | nil => simp
  | cons f stack ih =>
    intro g hg
    rcases List.mem_cons.1 hg with rfl | hg
    · exact h.state_lt
    · exact ih h.tail g hg

theorem Viable.state_dropWhile {stack : Stack} (h : Viable stack) :
    Stack.state (stack.dropWhile (·.tree.isComment)) = stack.state := by
  induction h with
  | empty => rfl
  | comment _ hc ih => simpa [hc, Stack.state] using ih
  | read _ hr _ _ => simp [hr]

theorem Viable.dropWhile {stack : Stack} (h : Viable stack) :
    Viable (stack.dropWhile (·.tree.isComment)) := by
  rw [← List.takeWhile_append_dropWhile (p := (·.tree.isComment)) (l := stack)] at h
  exact h.of_append

theorem goals_start {g : Goal} (h : g ∈ goals Automaton.start) : g.read = 0 := by
  have hall : ∀ g ∈ goals Automaton.start, g.read = 0 := by decide +kernel
  exact hall g h

/-- Children whose symbols can stand in the first places of a reduction. -/
def Fill (r : Reduction) (count : Nat) (children : List Tree) : Prop :=
  List.Forall₂ (· ∈ ·) (Tree.structural children) ((List.range count).map r.column)

/-- The children of a goal are on the stack, and below them the complete phrase leads on. -/
theorem Viable.pop {stack : Stack} (h : Viable stack) {r : Reduction} {count : Nat}
    (goal : ⟨r, count + 1⟩ ∈ goals stack.state) (above : List Tree) :
    ∃ children rest next, stack.pop (count + 1) above = some (children ++ above, rest) ∧
      Viable rest ∧ goto? rest.state r.phrase = some next ∧ Fill r (count + 1) children := by
  induction h generalizing count above with
  | empty => cases goals_start goal
  | @comment stack tree below hc ih =>
    obtain ⟨children, rest, next, hpop, hrest, hgoto, hfill⟩ := ih goal (tree :: above)
    refine ⟨children ++ [tree], rest, next, ?_, hrest, hgoto, ?_⟩
    · rw [Stack.pop, if_pos hc, hpop, List.append_assoc, List.singleton_append]
    · simpa [Fill, Tree.structural, hc] using hfill
  | @read stack tree next below hr leads ih =>
    obtain ⟨place, hread, hcol, hfirst, hlater⟩ := Automaton.goal_before leads goal
    obtain rfl : count = place := Nat.succ.inj hread
    cases count with
    | zero =>
      obtain ⟨behind, hbehind⟩ := hfirst rfl
      refine ⟨[tree], stack, behind, ?_, below, hbehind, ?_⟩
      · rw [Stack.pop, if_neg (by simp [hr]), Stack.pop, List.singleton_append]
      · simpa [Fill, Tree.structural, hr] using hcol
    | succ count =>
      obtain ⟨children, rest, behind, hpop, hrest, hgoto, hfill⟩ :=
        ih (hlater (Nat.succ_ne_zero count)) (tree :: above)
      refine ⟨children ++ [tree], rest, behind, ?_, hrest, hgoto, ?_⟩
      · rw [Stack.pop, if_neg (by simp [hr]), hpop, List.append_assoc, List.singleton_append]
      · rw [Fill, List.range_succ, List.map_append, Tree.structural_append, Tree.structural_cons hr]
        exact List.rel_append hfill (.cons hcol .nil)

theorem leads?_nonterminal (q : Nat) (n : Nonterminal) : leads? q (.nonterminal n) = goto? q n :=
  rfl

theorem Viable.comments_append {comments stack : Stack} (h : Viable stack)
    (hc : ∀ f ∈ comments, f.tree.isComment = true) :
    Viable (comments.map (fun f => { f with state := stack.state }) ++ stack) ∧
      Stack.state (comments.map (fun f => { f with state := stack.state }) ++ stack) =
        stack.state := by
  induction comments with
  | nil => exact ⟨h, rfl⟩
  | cons f comments ih =>
    obtain ⟨hv, hs⟩ := ih fun g hg => hc g (List.mem_cons_of_mem _ hg)
    have hcomment := Viable.comment hv (hc f List.mem_cons_self)
    rw [hs] at hcomment
    exact ⟨hcomment, rfl⟩

/-- The comments that end a stack. -/
def Stack.comments (stack : Stack) : Stack := stack.takeWhile (·.tree.isComment)

/-- The stack below the comments that end it. -/
def Stack.bare (stack : Stack) : Stack := stack.dropWhile (·.tree.isComment)

theorem Stack.comments_append_bare (stack : Stack) : stack.comments ++ stack.bare = stack :=
  List.takeWhile_append_dropWhile

theorem Stack.comments_cons (f : Frame) (stack : Stack) :
    Stack.comments (f :: stack) = if f.tree.isComment then f :: stack.comments else [] := by
  simp only [Stack.comments, List.takeWhile_cons]

theorem Stack.bare_cons (f : Frame) (stack : Stack) :
    Stack.bare (f :: stack) = if f.tree.isComment then stack.bare else f :: stack := by
  simp only [Stack.bare, List.dropWhile_cons]

theorem Stack.isComment_of_mem_comments {stack : Stack} {f : Frame} (h : f ∈ stack.comments) :
    f.tree.isComment = true := by
  have hall := List.all_takeWhile (p := fun f : Frame => f.tree.isComment) (l := stack)
  exact List.all_eq_true.1 hall f h

theorem Stack.isComment_restated (stack : Stack) (q : Nat) :
    ∀ f ∈ stack.comments.map (fun f => { f with state := q }), f.tree.isComment = true := by
  intro f hf
  obtain ⟨g, hg, rfl⟩ := List.mem_map.1 hf
  have hcomment := isComment_of_mem_comments hg
  exact hcomment

/-- The phrases and tokens of a stack, without the comments. -/
def Stack.plain (stack : Stack) : Stack := stack.filter fun f => !f.tree.isComment

theorem Stack.plain_append (upper lower : Stack) :
    (upper ++ lower).plain = upper.plain ++ lower.plain :=
  List.filter_append ..

theorem Stack.plain_cons {f : Frame} (h : f.tree.isComment = false) (stack : Stack) :
    Stack.plain (f :: stack) = f :: stack.plain :=
  List.filter_cons_of_pos (by simp [h])

theorem Stack.plain_of_comments {stack : Stack} (h : ∀ f ∈ stack, f.tree.isComment = true) :
    stack.plain = [] :=
  List.filter_eq_nil_iff.2 fun f hf => by simp [h f hf]

theorem Stack.plain_alone {upper lower : Stack} {f : Frame}
    (above : ∀ f ∈ upper, f.tree.isComment = true) (under : ∀ f ∈ lower, f.tree.isComment = true)
    (plain : f.tree.isComment = false) : Stack.plain (upper ++ f :: lower) = [f] := by
  rw [plain_append, plain_of_comments above, plain_cons plain, plain_of_comments under,
    List.nil_append]

/-- Comments on top of a stack, in whatever state, are none of its phrases and tokens. -/
theorem Stack.plain_restated (stack : Stack) (q : Nat) {f : Frame} (h : f.tree.isComment = false)
    (rest : Stack) : Stack.plain (stack.comments.map (fun f => { f with state := q }) ++ f :: rest) =
      f :: rest.plain := by
  rw [plain_append, plain_of_comments (stack.isComment_restated q), plain_cons h, List.nil_append]

theorem Stack.bare_plain (stack : Stack) : stack.bare.plain = stack.plain := by
  conv_rhs => rw [← stack.comments_append_bare]
  rw [plain_append, plain_of_comments fun f hf => isComment_of_mem_comments hf, List.nil_append]

/-- A reduction: the children are taken off the stack, and the complete phrase leads on. -/
inductive Reduces (r : Reduction) (stack : Stack) : Stack → Prop where
  | mk {children : List Tree} {rest : Stack} {next : Nat}
      (pop : stack.bare.pop r.arity [] = some (children, rest))
      (leads : goto? rest.state r.phrase = some next) (fill : Fill r r.arity children) :
      Reduces r stack (stack.comments.map (fun f => { f with state := next }) ++
        ⟨next, .node r.phrase r.layout children⟩ :: rest)

/-- What is popped are the trees of the frames on top, as many phrases as were asked for. -/
theorem Stack.pop_eq_some {count : Nat} {stack rest : Stack} {above children : List Tree}
    (h : stack.pop count above = some (children, rest)) :
    ∃ taken, stack = taken ++ rest ∧ children = (taken.map (·.tree)).reverse ++ above ∧
      (taken.filter fun f => !f.tree.isComment).length = count := by
  induction stack generalizing count above with
  | nil =>
    cases count with
    | zero =>
      rw [Stack.pop] at h
      cases h
      exact ⟨[], rfl, rfl, rfl⟩
    | succ count => cases h
  | cons f stack ih =>
    cases count with
    | zero =>
      rw [Stack.pop] at h
      cases h
      exact ⟨[], rfl, rfl, rfl⟩
    | succ count =>
      rw [Stack.pop] at h
      split at h
      · next hc =>
        obtain ⟨taken, rfl, rfl, hcount⟩ := ih h
        exact ⟨f :: taken, rfl, by simp, by simpa [hc] using hcount⟩
      · next hc =>
        obtain ⟨taken, rfl, rfl, hcount⟩ := ih h
        exact ⟨f :: taken, rfl, by simp, by simpa [hc] using hcount⟩

/-- What is true of the frames of a stack is true of those that a reduction leaves, if it stays true of
comments behind another state and comes true of the phrase. -/
theorem Reduces.forall_frames {P : Frame → Prop} {r : Reduction} {stack kept : Stack}
    (h : Reduces r stack kept) (frames : ∀ f ∈ stack, P f)
    (comment : ∀ f ∈ stack, f.tree.isComment = true → ∀ q, P { f with state := q })
    (phrase : ∀ {children : List Tree} {rest : Stack} (q : Nat),
      stack.bare.pop r.arity [] = some (children, rest) → Fill r r.arity children →
      (∀ c ∈ children, ∃ f ∈ stack.bare, f.tree = c) →
      P ⟨q, .node r.phrase r.layout children⟩) : ∀ f ∈ kept, P f := by
  obtain ⟨pop, _, fill⟩ := h
  obtain ⟨taken, hbare, hchildren, _⟩ := Stack.pop_eq_some pop
  rw [List.append_nil] at hchildren
  have hbelow : ∀ f ∈ stack.bare, P f := fun f hf => frames f ((List.dropWhile_sublist _).subset hf)
  rw [hbare, List.forall_mem_append] at hbelow
  rw [List.forall_mem_append, List.forall_mem_cons]
  refine ⟨fun f hf => ?_, phrase _ pop fill fun c hc => ?_, hbelow.2⟩
  · obtain ⟨g, hg, rfl⟩ := List.mem_map.1 hf
    exact comment g ((List.takeWhile_sublist _).subset hg) (Stack.isComment_of_mem_comments hg) _
  · rw [hchildren, List.mem_reverse] at hc
    obtain ⟨g, hg, rfl⟩ := List.mem_map.1 hc
    exact ⟨g, hbare ▸ List.mem_append_left _ hg, rfl⟩

theorem Viable.of_reduces {stack kept : Stack} {r : Reduction} (h : Viable stack)
    (hr : Reduces r stack kept) : Viable kept := by
  cases hr with
  | @mk children rest next pop leads _ =>
    obtain ⟨taken, hbare, _⟩ := Stack.pop_eq_some pop
    have hrest : Viable rest := by
      have hdrop : Viable stack.bare := h.dropWhile
      rw [hbare] at hdrop
      exact hdrop.of_append
    have hnode : Viable (⟨next, .node r.phrase r.layout children⟩ :: rest) := .read hrest rfl leads
    exact (hnode.comments_append fun f hf => Stack.isComment_of_mem_comments hf).1

/-- A reduction that a viable stack asks for is made. -/
theorem Viable.reduce {stack : Stack} (h : Viable stack) {t : Terminal} {r : Reduction}
    (hr : reduction? stack.state t = some r) :
    ∃ kept, Parser.reduce ground r stack = .reduced kept ∧ Reduces r stack kept := by
  have hgoal := Automaton.goal_of_reduction hr
  rw [← h.state_dropWhile] at hgoal
  have hpop : ∃ children rest next, stack.bare.pop r.arity [] = some (children, rest) ∧
      goto? rest.state r.phrase = some next ∧ Fill r r.arity children := by
    cases harity : r.arity with
    | zero =>
      obtain ⟨next, hnext⟩ := (Automaton.reducesWell_of_reduction hr).2.2 harity
      refine ⟨[], stack.bare, next, by rw [Stack.pop], ?_, .nil⟩
      rw [Stack.bare, h.state_dropWhile]
      exact hnext
    | succ count =>
      rw [harity] at hgoal
      obtain ⟨children, rest, next, hpop, _, hgoto, hfill⟩ := h.dropWhile.pop hgoal []
      rw [List.append_nil] at hpop
      exact ⟨children, rest, next, hpop, hgoto, hfill⟩
  obtain ⟨children, rest, next, hpop, hgoto, hfill⟩ := hpop
  refine ⟨_, ?_, .mk hpop hgoto hfill⟩
  rw [Stack.bare] at hpop
  simp only [Parser.reduce, hpop, Stack.top?_ground, hgoto]
  rfl

theorem Viable.comments_of_start {stack : Stack} (h : Viable stack)
    (hs : stack.state = Automaton.start) : ∀ f ∈ stack, f.tree.isComment = true := by
  induction h with
  | empty => simp
  | comment _ hc ih =>
    intro f hf
    rcases List.mem_cons.1 hf with rfl | hf
    · exact hc
    · exact ih hs f hf
  | read _ _ leads _ => exact absurd hs (Automaton.leads?_ne_start leads)

/-- Before the end only a program is on the stack, with comments around it. -/
theorem Viable.program_of_final {stack : Stack} (h : Viable stack)
    (hs : stack.state = Automaton.final) :
    ∃ upper lower layout children,
      stack = upper ++ ⟨Automaton.final, .node .program layout children⟩ :: lower ∧
      (∀ f ∈ upper, f.tree.isComment = true) ∧ ∀ f ∈ lower, f.tree.isComment = true := by
  induction h with
  | empty => cases hs
  | @comment stack tree _ hc ih =>
    obtain ⟨upper, lower, layout, children, rfl, hu, hl⟩ := ih hs
    refine ⟨_ :: upper, lower, layout, children, rfl, ?_, hl⟩
    intro f hf
    rcases List.mem_cons.1 hf with rfl | hf
    · exact hc
    · exact hu f hf
  | @read stack tree next below hr leads _ =>
    change next = _ at hs
    subst hs
    obtain ⟨hstart, hsymbol⟩ := Automaton.leads?_final leads
    cases tree with
    | leaf token => cases hsymbol
    | node phrase layout children =>
      obtain rfl := Symbol.nonterminal.inj hsymbol
      exact ⟨[], stack, layout, children, rfl, by simp, below.comments_of_start hstart⟩

theorem root?_program {upper lower : Stack} {layout : Layout} {children : List Tree}
    (hl : ∀ f ∈ lower, f.tree.isComment = true) :
    root? (upper ++ ⟨Automaton.final, .node .program layout children⟩ :: lower) =
      some (.node .program layout
        ((lower.map (·.tree)).reverse ++ children ++ (upper.map (·.tree)).reverse)) := by
  have htrees : ((upper ++ ⟨Automaton.final, .node .program layout children⟩ :: lower).map
      (·.tree)).reverse = (lower.map (·.tree)).reverse ++
        .node .program layout children :: (upper.map (·.tree)).reverse := by simp
  have hcomments : ∀ t ∈ (lower.map (·.tree)).reverse, t.isComment = true := by
    simpa using hl
  rw [root?, htrees, List.dropWhile_append_of_pos hcomments, List.takeWhile_append_of_pos hcomments]
  simp [Tree.isComment]

theorem Viable.exists_root {stack : Stack} (h : Viable stack)
    (hs : stack.state = Automaton.final) : ∃ root, root? stack = some root := by
  obtain ⟨upper, lower, layout, children, rfl, _, hl⟩ := h.program_of_final hs
  exact ⟨_, root?_program hl⟩

/-- What one step makes of a viable stack before a token. -/
inductive Outcome (token : Token) (stack : Stack) : Step → Prop where
  /-- The token is pushed, and its edge leads to a new state. -/
  | shift {next : Nat} (plain : token.kind.isComment = false)
      (leads : leads? stack.state (.terminal token.kind) = some next)
      (alone : reduction? stack.state token.kind = none) :
      Outcome token stack (.shifted (⟨next, .leaf token⟩ :: stack))
  /-- A comment is pushed, and the state stays what it is. -/
  | pass (comment : token.kind.isComment = true) :
      Outcome token stack (.shifted (⟨stack.state, .leaf token⟩ :: stack))
  /-- A phrase is completed. -/
  | reduce {r : Reduction} {kept : Stack} (plain : token.kind.isComment = false)
      (asks : reduction? stack.state token.kind = some r)
      (alone : leads? stack.state (.terminal token.kind) = none) (reduces : Reduces r stack kept) :
      Outcome token stack (.reduced kept)
  /-- The token is pushed in one reading, and a phrase is completed in the other. -/
  | fork {r : Reduction} {next : Nat} {kept : Stack} (plain : token.kind.isComment = false)
      (leads : leads? stack.state (.terminal token.kind) = some next)
      (asks : reduction? stack.state token.kind = some r) (reduces : Reduces r stack kept) :
      Outcome token stack (.forked (⟨next, .leaf token⟩ :: stack) kept)
  /-- The program is complete, and but for comments it stands alone on the stack. -/
  | accept {upper lower : Stack} {layout : Layout} {children : List Tree}
      (final : stack.state = Automaton.final) (kind : token.kind = .endOfText)
      (alone : stack = upper ++ ⟨Automaton.final, .node .program layout children⟩ :: lower)
      (above : ∀ f ∈ upper, f.tree.isComment = true)
      (under : ∀ f ∈ lower, f.tree.isComment = true) :
      Outcome token stack (.accepted (.node .program layout
        ((lower.map (·.tree)).reverse ++ children ++ (upper.map (·.tree)).reverse)))
  /-- The token cannot follow. -/
  | refuse (nothing : Automaton.action? stack.state token.kind = none) :
      Outcome token stack .refused

/-- A step on a viable stack is never short of what it needs, and never stuck. -/
theorem Viable.outcome {stack : Stack} (h : Viable stack) (token : Token) :
    Outcome token stack (step ground token stack) := by
  by_cases hcomment : token.kind.isComment = true
  · have hact : Automaton.action? stack.state token.kind = some .pass := by
      rw [Automaton.action?, if_pos hcomment]
    simp only [step, Stack.top?_ground, hact]
    exact .pass hcomment
  have hplain : token.kind.isComment = false := by simpa using hcomment
  by_cases hend : stack.state = Automaton.final ∧ token.kind = .endOfText
  · have hact : Automaton.action? stack.state token.kind = some .accept := by
      rw [hend.1, hend.2, Automaton.action?_final]
    obtain ⟨upper, lower, layout, children, rfl, hu, hl⟩ := h.program_of_final hend.1
    simp only [step, Stack.top?_ground, hact, root?_program hl]
    exact .accept hend.1 hend.2 rfl hu hl
  have hact := Automaton.action?_of_plain h.state_ne_recovery hplain hend
  cases hl : leads? stack.state (.terminal token.kind) with
  | none =>
    cases hr : reduction? stack.state token.kind with
    | none =>
      simp only [hl, hr] at hact
      simp only [step, Stack.top?_ground, hact]
      exact .refuse hact
    | some r =>
      obtain ⟨kept, hkept, hreduces⟩ := h.reduce hr
      simp only [hl, hr] at hact
      simp only [step, Stack.top?_ground, hact, hkept]
      exact .reduce hplain hr hl hreduces
  | some next =>
    cases hr : reduction? stack.state token.kind with
    | none =>
      simp only [hl, hr] at hact
      simp only [step, Stack.top?_ground, hact]
      exact .shift hplain hl hr
    | some r =>
      obtain ⟨kept, hkept, hreduces⟩ := h.reduce hr
      simp only [hl, hr] at hact
      simp only [step, Stack.top?_ground, hact, hkept]
      exact .fork hplain hl hr hreduces

theorem Viable.push {stack : Stack} {token : Token} {next : Nat} (h : Viable stack)
    (plain : token.kind.isComment = false)
    (leads : leads? stack.state (.terminal token.kind) = some next) :
    Viable (⟨next, .leaf token⟩ :: stack) :=
  .read h plain leads

theorem Viable.pass {stack : Stack} {token : Token} (h : Viable stack)
    (comment : token.kind.isComment = true) : Viable (⟨stack.state, .leaf token⟩ :: stack) :=
  .comment h comment

theorem Viable.outcome_of_step {stack : Stack} {token : Token} {made : Step} (h : Viable stack)
    (hs : step ground token stack = made) : Outcome token stack made :=
  hs ▸ h.outcome token

theorem Viable.shifted {stack t : Stack} {token : Token} (h : Viable stack)
    (hs : step ground token stack = .shifted t) : Viable t := by
  cases h.outcome_of_step hs with
  | shift plain leads _ => exact h.push plain leads
  | pass comment => exact h.pass comment

theorem Viable.forked {stack t u : Stack} {token : Token} (h : Viable stack)
    (hs : step ground token stack = .forked t u) : Viable t ∧ Viable u := by
  cases h.outcome_of_step hs with
  | fork plain leads _ reduces => exact ⟨h.push plain leads, h.of_reduces reduces⟩

theorem Viable.reduced {stack t : Stack} {token : Token} (h : Viable stack)
    (hs : step ground token stack = .reduced t) : Viable t := by
  cases h.outcome_of_step hs with
  | reduce _ _ _ reduces => exact h.of_reduces reduces

/-- What is true of the last stack and carried back over each reduction is true of the first one. -/
@[elab_as_elim]
theorem Completes.viable_induction_on {token : Token} {t : Stack} {motive : Stack → Prop} {s : Stack}
    (h : Completes token s t) (hv : Viable s) (refl : motive t)
    (reduce : ∀ {s u : Stack} {r : Reduction}, Viable s → token.kind.isComment = false →
      reduction? s.state token.kind = some r → Reduces r s u → Completes token u t →
      motive u → motive s) : motive s := by
  induction h with
  | refl => exact refl
  | reduce hs rest ih =>
    cases hv.outcome_of_step hs with
    | reduce plain asks _ reduces =>
      exact reduce hv plain asks reduces rest (ih (hv.reduced hs) refl reduce)
  | fork hs rest ih =>
    cases hv.outcome_of_step hs with
    | fork plain _ asks reduces =>
      exact reduce hv plain asks reduces rest (ih (hv.forked hs).2 refl reduce)

/-- What is true of the first stack and kept by each reduction is true of the last one. -/
theorem Viable.completes_keeps {token : Token} {P : Stack → Prop} {s t : Stack} (hv : Viable s)
    (hc : Completes token s t) (first : P s)
    (keeps : ∀ {s u : Stack} {r : Reduction}, Viable s → reduction? s.state token.kind = some r →
      Reduces r s u → P s → P u) : P t := by
  refine hc.viable_induction_on (motive := fun s => P s → P t) hv id ?_ first
  exact fun hv _ asks reduces _ later now => later (keeps hv asks reduces now)

theorem Viable.completes {token : Token} {s t : Stack} (h : Viable s)
    (hc : Completes token s t) : Viable t :=
  h.completes_keeps hc h fun hv _ reduces _ => hv.of_reduces reduces

theorem Viable.pushes {token : Token} {s t : Stack} (h : Viable s)
    (hp : Pushes token s t) : Viable t := by
  cases hp with
  | shift before hs => exact (h.completes before).shifted hs
  | fork before hs => exact ((h.completes before).forked hs).1

/-- The last step of a push: the token leads on, or it is a comment. -/
theorem Viable.exists_push {token : Token} {s t : Stack} (h : Viable s) (hp : Pushes token s t) :
    ∃ u next, Completes token s u ∧ Pushes token u t ∧ t = ⟨next, .leaf token⟩ :: u ∧
      (token.kind.isComment = true ∨ leads? u.state (.terminal token.kind) = some next) := by
  cases hp with
  | @shift u _ before hs =>
    have hlast := Pushes.shift (.refl u) hs
    cases (h.completes before).outcome_of_step hs with
    | shift _ leads _ => exact ⟨u, _, before, hlast, rfl, .inr leads⟩
    | pass comment => exact ⟨u, _, before, hlast, rfl, .inl comment⟩
  | @fork u _ _ before hs =>
    have hlast := Pushes.fork (.refl u) hs
    cases (h.completes before).outcome_of_step hs with
    | fork _ leads _ _ => exact ⟨u, _, before, hlast, rfl, .inr leads⟩

/-- Every stack that the machine comes to is viable. -/
theorem viable_of_reaches {text : List Glyph} {r : Reading} (h : Reaches text r) :
    Viable r.stack := by
  induction h with
  | start => exact .empty
  | push _ _ _ _ pushes ih => exact ih.pushes pushes

end Parser
end Numscript
