import Numscript.Proofs.Automaton.Statement
import Numscript.Proofs.Parser.Forest
import Numscript.Proofs.Parser.Lookahead
import Numscript.Proofs.Tree.Unrolled

/-!
# Where a program may end

What the end of the text completes, up to the program itself, any token completes that may begin a statement.
So where a run accepts, the statements on its stack are completed before another statement as well.
-/
namespace Numscript.Parser

open Automaton (Reduction leads? goto? reduction? start walk programWords closers)
open Grammar (productions)

/-- A forest that any token behind a statement completes to a program, whose trees are `first`. -/
inductive Closes (first : List Tree) : List Tree → Prop where
  | between {trees : List Tree} (word : trees.map Tree.symbol ∈ programWords)
      (same : Tree.unrolledAll trees = first) : Closes first trees
  | reduce {below children : List Tree} {r : Reduction} (count : children.length = r.arity)
      (asks : ∀ q ∈ walk start ((below ++ children).map Tree.symbol), ∀ t ∈ closers,
        reduction? q t = some r)
      (rest : Closes first (below ++ [.node r.phrase r.layout children])) :
      Closes first (below ++ children)

/-- A token that may stand behind a statement completes the program before it. -/
theorem Closes.settles {first : List Tree} {s : Stack} (h : Closes first s.forest) (hv : Viable s)
    {token : Token} (plain : token.kind.isComment = false) (closes : token.kind ∈ closers) : ∃ t, Viable t ∧
      t.forest.map Tree.symbol ∈ programWords ∧ Tree.unrolledAll t.forest = first ∧
      ∀ e, Settles token t e → Settles token s e := by
  generalize hs : s.forest = forest at h
  induction h generalizing s with
  | between word same => exact ⟨s, hv, hs ▸ word, hs ▸ same, fun _ he => he⟩
  | @reduce below children r count asks _ ih =>
    have hasks := asks s.state (hs ▸ hv.walk_forest) _ closes
    obtain ⟨kept, _, hr⟩ := hv.reduce hasks
    obtain ⟨below', children', c⟩ := hr.exists_completed hv hasks
    obtain ⟨rfl, rfl⟩ := List.append_inj' (hs.symm.trans c.split) (count.trans c.count.symm)
    obtain ⟨t, ht, word, same, hsettles⟩ := ih (hv.of_reduces hr) c.whole
    exact ⟨t, ht, word, same, fun e he => .reduce plain hasks hr (hsettles e he)⟩

/-- A program is completed over all trees of a forest. -/
theorem Completed.program {s : Stack} {kept below children : List Tree} {r : Reduction} {k : Terminal}
    (c : Completed r s.forest kept below children) (hv : Viable s) (asks : reduction? s.state k = some r)
    (phrase : r.phrase = .program) :
    s.forest.map Tree.symbol ∈ programWords ∧ kept = [.node .program .plain s.forest] := by
  obtain ⟨q, hq, hgoto⟩ := c.leads
  have hstart : q = start := by
    have hlt : q < Automaton.stateCount := by
      obtain ⟨n, hn⟩ := Option.isSome_iff_exists.1 hgoto
      obtain ⟨s, hs, _⟩ := Option.bind_eq_some_iff.1 hn
      exact Automaton.lt_stateCount_of_state? hs
    refine (Automaton.goto_program q hlt).resolve_left fun hnone => ?_
    rw [phrase, hnone] at hgoto
    cases hgoto
  obtain rfl : below = [] := by
    rcases List.eq_nil_or_concat below with hnil | ⟨init, last, rfl⟩
    · exact hnil
    · rw [List.concat_eq_append, List.map_append, List.map_singleton, Automaton.walk_append] at hq
      obtain ⟨p, _, hlast⟩ := Option.bind_eq_some_iff.1 hq
      rw [Automaton.walk] at hlast
      obtain ⟨n, hn, hq⟩ := Option.bind_eq_some_iff.1 hlast
      obtain rfl := Option.some.inj hq
      exact absurd hstart (Automaton.leads?_ne_start hn)
  have hword : s.forest.map Tree.symbol ∈ programWords := by
    rw [c.split, List.nil_append, programWords, ← phrase]
    exact c.spelt
  have hask := (Automaton.begins_of_walk hword hv.walk_forest k).completes
  rw [asks] at hask
  refine ⟨hword, ?_⟩
  split at hask
  · obtain rfl := Option.some.inj hask
    rw [c.whole, c.split]
    rfl
  · cases hask

/-- Where a run accepts, a statement may follow. -/
theorem Settles.exists_closes {token : Token} {s : Stack} {root : Tree} (h : Settles token s (.accepted root))
    (hv : Viable s) (unfinished : ∀ t ∈ s.forest, t.symbol ≠ .nonterminal .program) :
    ∃ trees, root.sifted = .node .program .plain trees ∧ Closes (Tree.unrolledAll trees) s.forest := by
  have hkind := h.kind_of_accepted
  generalize he : Ending.accepted root = e at h
  induction h with
  | pass | shift => cases he
  | @reduce s kept r e plain asks reduces rest ih =>
    subst he
    obtain ⟨below, children, c⟩ := reduces.exists_completed hv asks
    rw [hkind] at asks
    by_cases hphrase : r.phrase = .program
    · obtain ⟨hword, hkept⟩ := c.program hv asks hphrase
      exact ⟨s.forest, rest.sifted_of_program (hv.of_reduces reduces) hkept, .between hword rfl⟩
    · have hcloses := (Automaton.reduction?_closers s.state (List.mem_range.2 hv.state_lt) r
        asks).resolve_left hphrase
      have hkept : ∀ t ∈ kept.forest, t.symbol ≠ .nonterminal .program := by
        rw [c.split] at unfinished
        rw [c.whole, List.forall_mem_append]
        refine ⟨fun t ht => unfinished t (List.mem_append_left _ ht), ?_⟩
        intro t ht
        obtain rfl := List.mem_singleton.1 ht
        exact fun h => hphrase (Symbol.nonterminal.inj h)
      obtain ⟨trees, hsifted, hrest⟩ := ih (hv.of_reduces reduces) hkept rfl
      refine ⟨trees, hsifted, ?_⟩
      rw [c.whole] at hrest
      have hwalk := hv.walk_forest
      rw [c.split] at hwalk ⊢
      refine .reduce c.count (fun q hq t ht => ?_) hrest
      obtain rfl := Option.some.inj (hwalk.symm.trans hq)
      exact hcloses t ht
  | @accept s upper lower layout children final kind alone above under =>
    obtain ⟨layout', trees, hforest⟩ := hv.forest_of_final final
    exact absurd rfl (unfinished (.node .program layout' trees) (hforest ▸ List.mem_cons_self))

/-- No run comes to a program before the end of the text. -/
theorem Settles.unfinished {token : Token} {s t : Stack} (h : Settles token s (.pushed t)) (hv : Viable s)
    (unfinished : ∀ t ∈ s.forest, t.symbol ≠ .nonterminal .program) :
    ∀ u ∈ t.forest, u.symbol ≠ .nonterminal .program := by
  have hkind := h.kind_ne_endOfText
  generalize he : Ending.pushed t = e at h
  induction h with
  | pass comment =>
    obtain rfl := Ending.pushed.inj he
    rwa [Stack.forest_comment comment]
  | shift plain leads =>
    obtain rfl := Ending.pushed.inj he
    rw [Stack.forest_token plain, List.forall_mem_append]
    refine ⟨unfinished, ?_⟩
    intro t ht
    obtain rfl := List.mem_singleton.1 ht
    nofun
  | @reduce s kept r e plain asks reduces rest ih =>
    refine ih (hv.of_reduces reduces) ?_ he
    obtain ⟨below, children, c⟩ := reduces.exists_completed hv asks
    rw [c.split] at unfinished
    rw [c.whole, List.forall_mem_append]
    refine ⟨fun t ht => unfinished t (List.mem_append_left _ ht), ?_⟩
    intro t ht hprogram
    obtain rfl := List.mem_singleton.1 ht
    exact hkind (Automaton.eq_endOfText_of_program asks (Symbol.nonterminal.inj hprogram))
  | accept => cases he

theorem unfinished_of_reaches {text : List Glyph} {r : Reading} (h : Reaches text r) :
    ∀ t ∈ r.stack.forest, t.symbol ≠ .nonterminal .program := by
  induction h with
  | start => nofun
  | push reached _ _ _ pushes ih =>
    have hv := viable_of_reaches reached
    exact ((Ends.pushed pushes).settles hv).unfinished hv ih

end Numscript.Parser
