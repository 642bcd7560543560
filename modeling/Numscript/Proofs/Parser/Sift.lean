import Numscript.Proofs.Parser.Run
import Numscript.Proofs.Parser.Spine
import Numscript.Proofs.Tree.Trimmed

/-!
# Stacks without comments

A comment is pushed in every state and changes none. So stacks that are the same but for comments, on them
and below them, go on alike. And the trees on a stack are trimmed, as comments on top of it stay there when a
phrase is completed, and those below its first child do as well.
-/
namespace Numscript.Parser

open Automaton (Reduction leads? goto? reduction?)

variable {text text' : List Glyph} {s s' kept kept' : Stack} {r : Reduction}

/-- The first tree that is popped is no comment. -/
theorem Stack.pop_head? {count : Nat} {stack rest : Stack} {above children : List Tree}
    (h : stack.pop (count + 1) above = some (children, rest)) :
    ∀ c ∈ children.head?, c.isComment = false := by
  induction stack generalizing count above with
  | nil => cases h
  | cons f stack ih =>
    rw [Stack.pop] at h
    split at h
    · exact ih h
    · next hplain =>
      cases count with
      | zero =>
        rw [Stack.pop] at h
        obtain ⟨rfl, -⟩ := Prod.mk.inj (Option.some.inj h)
        simpa using hplain
      | succ count => exact ih h

/-- All trees on a stack are trimmed. -/
def Stack.Trimmed (stack : Stack) : Prop := ∀ f ∈ stack, f.tree.Trimmed

theorem Stack.Trimmed.cons {f : Frame} (h : s.Trimmed) (hf : f.tree.Trimmed) :
    Stack.Trimmed (f :: s) :=
  List.forall_mem_cons.2 ⟨hf, h⟩

theorem Stack.Trimmed.reduces (h : s.Trimmed) (hr : Reduces r s kept) : kept.Trimmed := by
  refine hr.forall_frames h (fun f hf _ _ => h f hf) fun {children rest} _ pop _ below => ?_
  obtain ⟨taken, hbare, hchildren, _⟩ := Stack.pop_eq_some pop
  rw [List.append_nil] at hchildren
  have hfirst : ∀ c ∈ children.head?, c.isComment = false := by
    cases harity : r.arity with
    | zero =>
      rw [harity, Stack.pop] at pop
      obtain ⟨rfl, -⟩ := Prod.mk.inj (Option.some.inj pop)
      rintro _ ⟨⟩
    | succ count =>
      rw [harity] at pop
      exact Stack.pop_head? pop
  have hlast : ∀ c ∈ children.getLast?, c.isComment = false := by
    intro c hc
    rw [hchildren, List.getLast?_reverse, List.head?_map, Option.mem_def, Option.map_eq_some_iff] at hc
    obtain ⟨f, hf, rfl⟩ := hc
    have hhead : s.bare.head? = some f := by rw [hbare, List.head?_append, hf]; rfl
    rw [Stack.bare] at hhead
    have hplain := List.head?_dropWhile_not (fun f : Frame => f.tree.isComment) s
    rw [hhead] at hplain
    simpa using hplain
  refine .node hfirst hlast fun c hc => ?_
  obtain ⟨f, hf, rfl⟩ := below c hc
  exact h f ((List.dropWhile_sublist _).subset hf)

/-- What the machine makes of a stack with trimmed trees. -/
theorem Settles.trimmed {token : Token} {e : Ending} (h : Settles token s e) (hs : s.Trimmed) :
    (∀ t, e = .pushed t → t.Trimmed) ∧ ∀ root, e = .accepted root →
      ∃ layout children, root = .node .program layout children ∧ ∀ c ∈ children, c.Trimmed := by
  induction h with
  | pass =>
    refine ⟨?_, nofun⟩
    rintro _ ⟨⟩
    exact hs.cons (.leaf token)
  | shift =>
    refine ⟨?_, nofun⟩
    rintro _ ⟨⟩
    exact hs.cons (.leaf token)
  | reduce _ _ reduces _ ih => exact ih (hs.reduces reduces)
  | @accept s upper lower layout children _ _ alone above under =>
    refine ⟨nofun, ?_⟩
    rintro _ ⟨⟩
    subst alone
    have hnode := hs ⟨Automaton.final, .node .program layout children⟩ (by simp)
    refine ⟨layout, _, rfl, fun c hc => ?_⟩
    simp only [List.mem_append, List.mem_reverse, List.mem_map] at hc
    rcases hc with (⟨f, hf, rfl⟩ | hc) | ⟨f, hf, rfl⟩
    · exact hs f (by simp [hf])
    · cases hnode with
      | node _ _ below => exact below c hc
    · exact hs f (by simp [hf])

theorem trimmed_of_reaches {reading : Reading} (h : Reaches text reading) :
    reading.stack.Trimmed := by
  induction h with
  | start => nofun
  | push reached _ _ _ pushes ih =>
    exact (((Ends.pushed pushes).settles (viable_of_reaches reached)).trimmed ih).1 _ rfl

theorem Recognises.trimmed {root : Tree} (h : Recognises text root) :
    ∃ layout children, root = .node .program layout children ∧ ∀ c ∈ children, c.Trimmed := by
  obtain ⟨reached, _, _, _, completes, accepts⟩ := h
  have hsettles := (Ends.accepted completes accepts).settles (viable_of_reaches reached)
  exact (hsettles.trimmed (trimmed_of_reaches reached)).2 _ rfl

/-- Comments tell nothing of whether a program holds an allotment of a single remaining clause. -/
theorem Recognises.lone_sifted_iff {root : Tree} (h : Recognises text root) :
    root.sifted.Lone ↔ root.Lone := by
  obtain ⟨layout, children, rfl, htrimmed⟩ := h.trimmed
  exact Tree.lone_sifted_iff_of_trimmed nofun htrimmed

/-- Frames in the same state, whose trees are copies but for the comments below them. -/
structure Frame.Agrees (text text' : List Glyph) (f f' : Frame) : Prop where
  state : f'.state = f.state
  tree : Copy text text' f.tree.sifted f'.tree.sifted

/-- Stacks that are copies but for the comments on and below them. -/
def Stack.Agrees (text text' : List Glyph) (s s' : Stack) : Prop :=
  List.Forall₂ (Frame.Agrees text text') s.plain s'.plain

theorem Stack.Agrees.spine_eq (h : Stack.Agrees text text' s s') : s'.spine = s.spine := by
  rw [Stack.Agrees] at h
  rw [Stack.spine, Stack.spine]
  generalize s.plain = a at h
  generalize s'.plain = b at h
  induction h with
  | nil => rfl
  | cons head _ ih => rw [List.map_cons, List.map_cons, head.state, ih]

theorem Stack.Agrees.state_eq (h : Stack.Agrees text text' s s') (hv : Viable s) (hv' : Viable s') :
    s'.state = s.state := by
  rw [← hv.top_spine, ← hv'.top_spine, h.spine_eq]

/-- What a reduction does but for the comments. -/
theorem Reduces.exists_plain (h : Reduces r s kept) : ∃ taken rest next children,
    s.plain = taken ++ rest ∧ taken.length = r.arity ∧
      kept.plain = ⟨next, .node r.phrase r.layout children⟩ :: rest ∧
      Tree.siftedAll children = (taken.map (·.tree.sifted)).reverse := by
  obtain @⟨children, rest, next, pop, _, _⟩ := h
  obtain ⟨taken, hbare, hchildren, hcount⟩ := Stack.pop_eq_some pop
  refine ⟨taken.plain, rest.plain, next, children, ?_, hcount, ?_, ?_⟩
  · rw [← Stack.bare_plain, hbare, Stack.plain_append]
  · exact Stack.plain_restated _ _ rfl _
  · rw [hchildren, List.append_nil, Tree.siftedAll_eq, List.filter_reverse, List.map_reverse,
      List.filter_map, List.map_map]
    rfl

theorem Reduces.agrees (h : Stack.Agrees text text' s s') (hv : Viable s) (hv' : Viable s')
    (hr : Reduces r s kept) (hr' : Reduces r s' kept') : Stack.Agrees text text' kept kept' := by
  obtain ⟨taken, rest, next, children, hs, hcount, hkept, hchildren⟩ := hr.exists_plain
  obtain ⟨taken', rest', next', children', hs', hcount', hkept', hchildren'⟩ := hr'.exists_plain
  obtain ⟨n, leads, hspine⟩ := hr.spine hv
  obtain ⟨n', leads', hspine'⟩ := hr'.spine hv'
  rw [h.spine_eq, leads] at leads'
  have hnext : next' = next := by
    rw [Stack.spine, hkept] at hspine
    rw [Stack.spine, hkept'] at hspine'
    exact ((List.cons.inj hspine').1.trans (Option.some.inj leads').symm).trans
      (List.cons.inj hspine).1.symm
  rw [Stack.Agrees, hs, hs'] at h
  have htaken : List.Forall₂ (Frame.Agrees text text') taken taken' := by
    have htake := List.forall₂_take r.arity h
    rwa [← hcount, List.take_left, hcount, ← hcount', List.take_left] at htake
  have hrest : List.Forall₂ (Frame.Agrees text text') rest rest' := by
    have hdrop := List.forall₂_drop r.arity h
    rwa [← hcount, List.drop_left, hcount, ← hcount', List.drop_left] at hdrop
  rw [Stack.Agrees, hkept, hkept']
  refine .cons ⟨hnext, .node ?_⟩ hrest
  rw [hchildren, hchildren', copyAll_iff, List.forall₂_reverse_iff, List.forall₂_map_left_iff,
    List.forall₂_map_right_iff]
  exact htaken.imp fun _ _ hf => hf.tree

/-- Endings that are copies but for the comments. -/
inductive Ending.Agrees (text text' : List Glyph) : Ending → Ending → Prop where
  | pushed {s s' : Stack} (h : Stack.Agrees text text' s s') :
      Ending.Agrees text text' (.pushed s) (.pushed s')
  | accepted {t t' : Tree} (h : Copy text text' t.sifted t'.sifted) :
      Ending.Agrees text text' (.accepted t) (.accepted t')

theorem Stack.plain_comment {f : Frame} (h : f.tree.isComment = true) (s : Stack) :
    Stack.plain (f :: s) = s.plain :=
  List.filter_cons_of_neg (by simp [h])

/-- Without comments, an accepted program is what it was before the comments around it were put into it. -/
theorem sifted_accepted {upper lower : Stack} (layout : Layout) (children : List Tree)
    (above : ∀ f ∈ upper, f.tree.isComment = true) (under : ∀ f ∈ lower, f.tree.isComment = true) :
    (Tree.node .program layout
        ((lower.map (·.tree)).reverse ++ children ++ (upper.map (·.tree)).reverse)).sifted =
      (Tree.node .program layout children).sifted := by
  have hnone : ∀ {part : Stack}, (∀ f ∈ part, f.tree.isComment = true) →
      Tree.siftedAll (part.map (·.tree)).reverse = [] := fun hpart =>
    Tree.siftedAll_of_comments (by simpa using hpart)
  rw [Tree.sifted, Tree.sifted, Tree.siftedAll_append, Tree.siftedAll_append, hnone under, hnone above,
    List.nil_append, List.append_nil]

/-- What a token makes of a stack, a copy of it makes of a stack that is the same but for comments. -/
theorem Settles.agrees {token token' : Token} {e : Ending} (h : Stack.Agrees text text' s s')
    (hv : Viable s) (hv' : Viable s') (copy : token.Copies text text' token')
    (hs : Settles token s e) : ∃ e', Settles token' s' e' ∧ Ending.Agrees text text' e e' := by
  have hkind := copy.kind
  induction hs generalizing s' with
  | pass comment =>
    have hleaf : (Tree.leaf token).isComment = true := comment
    have hleaf' : (Tree.leaf token').isComment = true := (congrArg Terminal.isComment hkind).trans comment
    refine ⟨_, .pass hleaf', .pushed ?_⟩
    rw [Stack.Agrees, Stack.plain_comment hleaf, Stack.plain_comment hleaf']
    exact h
  | shift plain leads =>
    have hleaf : (Tree.leaf token).isComment = false := plain
    have hleaf' : (Tree.leaf token').isComment = false := (congrArg Terminal.isComment hkind).trans plain
    rw [← hkind, ← h.state_eq hv hv'] at leads
    refine ⟨_, .shift hleaf' leads, .pushed ?_⟩
    rw [Stack.Agrees, Stack.plain_cons hleaf, Stack.plain_cons hleaf']
    exact .cons ⟨rfl, .leaf copy⟩ h
  | reduce plain asks reduces _ ih =>
    rw [← hkind] at plain
    rw [← hkind, ← h.state_eq hv hv'] at asks
    obtain ⟨kept', _, reduces'⟩ := hv'.reduce asks
    obtain ⟨e', hsettles, hagrees⟩ := ih (reduces.agrees h hv hv' reduces') (hv.of_reduces reduces)
      (hv'.of_reduces reduces')
    exact ⟨e', .reduce plain asks reduces' hsettles, hagrees⟩
  | @accept s upper lower layout children final kind alone above under =>
    have hstate := (h.state_eq hv hv').trans final
    obtain ⟨upper', lower', layout', children', alone', above', under'⟩ :=
      hv'.program_of_final hstate
    rw [← hkind] at kind
    refine ⟨_, .accept hstate kind alone' above' under', .accepted ?_⟩
    rw [Stack.Agrees, alone, alone', Stack.plain_alone above under rfl,
      Stack.plain_alone above' under' rfl] at h
    cases h with
    | cons head _ =>
      rw [sifted_accepted _ _ above under, sifted_accepted _ _ above' under']
      exact head.tree

end Numscript.Parser
