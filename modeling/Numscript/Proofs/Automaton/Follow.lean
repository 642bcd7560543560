import Numscript.Grammar.Canonical
import Numscript.Proofs.Automaton.Pairs
import Numscript.Proofs.Automaton.Walk
import Numscript.Proofs.Bits

/-!
# What may follow a phrase

The tokens before which a phrase may be complete that was begun in a state. A state behind the phrase
may be shared with phrases begun elsewhere, so it may act on more tokens than those: where it does nothing
but complete a phrase with a single child, that phrase was begun in the same state, and what may follow it
counts.

The automaton is complete: wherever a phrase can be begun, each of its productions can be read child by
child, and behind the last child the phrase is completed before all that may follow it. The one exception
are the operators: a sum is not completed before a slash, and no operation is begun behind an operator that
binds as tightly.
-/
namespace Numscript

open Grammar (Item productions unaliased tightness)

namespace Terminal

/-- A set of tokens, as the bits of a number. -/
def bits (ts : List Terminal) : Nat := Numscript.bits (ts.map index)

theorem index_injective {s t : Terminal} (h : s.index = t.index) : s = t :=
  Option.some.inj ((all_index s).symm.trans (h ▸ all_index t))

theorem testBit_bits {ts : List Terminal} {t : Terminal} :
    (bits ts).testBit t.index = true ↔ t ∈ ts := by
  rw [bits, Numscript.testBit_bits]
  exact List.mem_map_of_injective fun _ _ => index_injective

end Terminal

namespace Automaton

/-- The roles that the children of a production have. -/
def rolesOf (p : List Item) : Layout :=
  (Layout.all.find? fun l => l.items (Reduction.children p) = p).getD .plain

/-- The reduction that completes a phrase by a production. -/
def reductionOf (n : Nonterminal) (p : List Item) : Reduction := ⟨n, p.length, rolesOf p⟩

/-- The state behind `to` and the remaining clause of a destination that is filled in order. -/
def behindRemaining : Nat := 22

/--
A token may follow a phrase that was begun in a state. Behind `behindRemaining` a destination leads to a
state that it shares with others, but nothing but the closing brace is to follow.
-/
inductive Follows (q : Nat) : Nonterminal → Terminal → Prop where
  | shift {n : Nonterminal} {next : Nat} {t : Terminal} (behind : goto? q n = some next)
      (leads : (leads? next (.terminal t)).isSome = true) : Follows q n t
  | ends {n : Nonterminal} (behind : goto? q n = some final) : Follows q n .endOfText
  | single {n : Nonterminal} {next : Nat} {t : Terminal} {r : Reduction}
      (behind : goto? q n = some next) (asks : reduction? next t = some r) (arity : r.arity = 1)
      (outer : Follows q r.phrase t) : Follows q n t
  | several {n : Nonterminal} {next : Nat} {t : Terminal} {r : Reduction}
      (behind : goto? q n = some next) (asks : reduction? next t = some r) (arity : r.arity ≠ 1)
      (closes : q = behindRemaining → t = .rbrace) : Follows q n t

/-- What may follow a phrase that was begun in a state, through so many phrases with a single child. -/
def followIn (q : Nat) : (depth : Nat) → Nonterminal → Nat
  | 0, _ => 0
  | depth + 1, n =>
    match goto? q n with
    | none => 0
    | some next =>
      match state? next with
      | none => 0
      | some s =>
        Terminal.bits (s.shifts.map (·.1)) |||
          ((if next = final then Terminal.bits [.endOfText] else 0) |||
          s.reductions.foldr (fun e m => (Terminal.bits e.2 &&&
            (if e.1.arity = 1 then followIn q depth e.1.phrase
             else if q = behindRemaining then Terminal.bits [.rbrace] else Terminal.bits e.2)) ||| m) 0)

/-- The tokens that may follow a phrase begun in a state. -/
def follow (q : Nat) (n : Nonterminal) : Nat := followIn q 6 n

/-- A check of every state and every phrase that can be begun there. -/
def everyBeginning (check : (q : Nat) → (n : Nonterminal) → Bool) : Bool :=
  (List.range stateCount).all fun q =>
    match state? q with
    | none => true
    | some s => s.gotos.all fun e => check q e.1

theorem of_everyBeginning {check : Nat → Nonterminal → Bool} (h : everyBeginning check = true)
    {q next : Nat} {n : Nonterminal} (behind : goto? q n = some next) : check q n = true := by
  obtain ⟨s, hs, hgoto⟩ := Option.bind_eq_some_iff.1 behind
  have hall := List.all_eq_true.1 h q (List.mem_range.2 (lt_stateCount_of_state? hs))
  simp only [hs] at hall
  exact List.all_eq_true.1 hall _ (mem_of_lookup hgoto)

/-- More phrases with a single child add nothing. -/
theorem followIn_steady {q next : Nat} {n : Nonterminal} (behind : goto? q n = some next) :
    followIn q 7 n = follow q n := by
  have hall : everyBeginning (fun q n => followIn q 7 n == follow q n) = true := by decide +kernel
  exact eq_of_beq (of_everyBeginning hall behind)

theorem testBit_foldr {α : Type} {l : List α} {f : α → Nat} {a : α} {i : Nat} (ha : a ∈ l)
    (h : (f a).testBit i = true) : (l.foldr (fun e m => f e ||| m) 0).testBit i = true := by
  induction l with
  | nil => cases ha
  | cons b l ih =>
    rw [List.foldr_cons, Nat.testBit_or, Bool.or_eq_true]
    rcases List.mem_cons.1 ha with rfl | ha
    · exact .inl h
    · exact .inr (ih ha)

theorem Follows.testBit {q : Nat} {n : Nonterminal} {t : Terminal} (h : Follows q n t) :
    (follow q n).testBit t.index = true := by
  induction h with
  | @shift n next t behind leads =>
    obtain ⟨a, ha⟩ := Option.isSome_iff_exists.1 leads
    obtain ⟨s, hs, hshift⟩ := Option.bind_eq_some_iff.1 ha
    have hmem := Terminal.testBit_bits.2 (List.mem_map_of_mem (f := Prod.fst) (mem_of_lookup hshift))
    simp only [follow, followIn, behind, hs, Nat.testBit_or, Bool.or_eq_true]
    exact .inl hmem
  | @ends n behind =>
    obtain ⟨s, hs⟩ : ∃ s, state? final = some s := ⟨_, rfl⟩
    simp only [follow, followIn, behind, hs, Nat.testBit_or, Bool.or_eq_true]
    exact .inr (.inl (by decide))
  | @single n next t r behind asks arity outer ih =>
    obtain ⟨s, hs, hr⟩ := Option.bind_eq_some_iff.1 asks
    obtain ⟨before, hmem, ht⟩ := State.mem_reductions hr
    rw [← followIn_steady behind]
    simp only [followIn.eq_def q 7, behind, hs, Nat.testBit_or, Bool.or_eq_true]
    refine .inr (.inr (testBit_foldr hmem ?_))
    rw [Nat.testBit_and, Bool.and_eq_true, if_pos arity]
    exact ⟨Terminal.testBit_bits.2 ht, ih⟩
  | @several n next t r behind asks arity closes =>
    obtain ⟨s, hs, hr⟩ := Option.bind_eq_some_iff.1 asks
    obtain ⟨before, hmem, ht⟩ := State.mem_reductions hr
    simp only [follow, followIn.eq_def q 6, behind, hs, Nat.testBit_or, Bool.or_eq_true]
    refine .inr (.inr (testBit_foldr hmem ?_))
    rw [Nat.testBit_and, Bool.and_eq_true, if_neg arity]
    refine ⟨Terminal.testBit_bits.2 ht, ?_⟩
    split
    · next hq => exact Terminal.testBit_bits.2 (closes hq ▸ List.mem_singleton_self _)
    · exact Terminal.testBit_bits.2 ht

/-- Whether a production adds or subtracts. -/
def isSum (p : List Item) : Bool :=
  p.any fun i => i.symbol = .terminal .plus || i.symbol = .terminal .minus

/-- Whether a state makes one reduction before all tokens of a set. -/
def State.completes (s : State) (r : Reduction) (before : Nat) : Bool :=
  s.reductions.any (·.1 = r) && s.reductions.all fun e =>
    before &&& Terminal.bits e.2 == if e.1 = r then before else 0

/-- Whether an operation with this operator can be begun in a state. -/
def takes (q : Nat) (operator : Terminal) : Bool :=
  (walk q [.nonterminal .valueExpr, .terminal operator]).isSome

/-- Whether a phrase is completed by a production before all that may follow it. -/
def completed (q : Nat) (n : Nonterminal) (p : List Item) : Bool :=
  match walk q (Reduction.children p) with
  | none => n = .infixExpr && operators.all fun o => !p.any (·.symbol = .terminal o) || !takes q o
  | some last =>
    match state? last with
    | none => false
    | some s => s.completes (reductionOf n p) (follow q n &&& Terminal.bits
        (if isSum p then Terminal.all.filter (· ≠ .slash) else Terminal.all))

theorem everyProduction_completed :
    everyBeginning (fun q n => (productions n).all (completed q n)) = true := by
  decide +kernel

theorem State.reduction?_of_completes {s : State} {r : Reduction} {before : Nat} {t : Terminal}
    (h : s.completes r before = true) (ht : before.testBit t.index = true) :
    s.reduction? t = some r := by
  simp only [completes, Bool.and_eq_true, List.any_eq_true, List.all_eq_true, decide_eq_true_eq,
    beq_iff_eq] at h
  obtain ⟨⟨e, he, her⟩, hall⟩ := h
  have hmem : ∀ e ∈ s.reductions, t ∈ e.2 ↔ e.1 = r := by
    intro e he
    have hbits := congrArg (·.testBit t.index) (hall e he)
    simp only [Nat.testBit_and, ht, Bool.true_and] at hbits
    rw [← Terminal.testBit_bits, hbits]
    split <;> simp_all
  rw [reduction?, Option.map_eq_some_iff]
  cases hfind : s.reductions.find? fun e => e.2.contains t with
  | none =>
    have hnone := List.find?_eq_none.1 hfind e he
    simp [(hmem e he).2 her] at hnone
  | some e' =>
    have hcontains : t ∈ e'.2 := by simpa using List.find?_some hfind
    exact ⟨e', rfl, (hmem e' (List.mem_of_find?_eq_some hfind)).1 hcontains⟩

/-- Behind the last child of a production the phrase is completed before all that may follow it. -/
theorem reduction?_of_follows {q next last : Nat} {n : Nonterminal} {p : List Item} {t : Terminal}
    (behind : goto? q n = some next) (hp : p ∈ productions n)
    (hw : walk q (Reduction.children p) = some last) (follows : Follows q n t)
    (slash : t = .slash → isSum p = false) : reduction? last t = some (reductionOf n p) := by
  have hall := List.all_eq_true.1 (of_everyBeginning everyProduction_completed behind) p hp
  rw [completed, hw] at hall
  cases hs : state? last with
  | none => simp [hs] at hall
  | some s =>
    simp only [hs] at hall
    rw [reduction?, hs, Option.bind_some]
    refine State.reduction?_of_completes hall ?_
    rw [Nat.testBit_and, follows.testBit, Bool.true_and, Terminal.testBit_bits]
    split
    · next hsum =>
      refine List.mem_filter.2 ⟨Terminal.mem_all t, decide_eq_true fun hslash => ?_⟩
      simp [slash hslash] at hsum
    · exact Terminal.mem_all t

/-- The children of a production can be read one by one where the phrase can be begun. -/
theorem exists_walk {q next : Nat} {n : Nonterminal} {p : List Item} (behind : goto? q n = some next)
    (hp : p ∈ productions n)
    (taken : n = .infixExpr → ∃ o ∈ operators, ⟨.terminal o, some .op⟩ ∈ p ∧ takes q o = true) :
    ∃ last, walk q (Reduction.children p) = some last := by
  have hall := List.all_eq_true.1 (of_everyBeginning everyProduction_completed behind) p hp
  rw [completed] at hall
  cases hw : walk q (Reduction.children p) with
  | some last => exact ⟨last, rfl⟩
  | none =>
    simp only [hw, Bool.and_eq_true, decide_eq_true_eq, List.all_eq_true, Bool.or_eq_true,
      Bool.not_eq_true', List.any_eq_false] at hall
    obtain ⟨o, ho, hmem, htakes⟩ := taken hall.1
    rcases hall.2 o ho with hnone | hnone
    · exact absurd rfl (hnone _ hmem)
    · rw [htakes] at hnone
      cases hnone

/-- An operand may be an operation that binds as tightly on the left, and more tightly on the right. -/
theorem takes_operand : ∀ q ∈ List.range stateCount, ∀ a ∈ operators, takes q a = true →
    ∀ b ∈ operators, (tightness a ≤ tightness b → takes q b = true) ∧
      (tightness a < tightness b → ∀ r ∈ walk q [.nonterminal .valueExpr, .terminal a],
        takes r b = true) := by
  decide +kernel

/-- The phrases that are made of operations. -/
def ofOperations (n : Nonterminal) : Bool := n = .valueExpr || n = .infixExpr

/-- Whether all values among some children may be any operation, and no slash stands among them. -/
def takesValues (q : Nat) : List Symbol → Bool
  | [] => true
  | x :: w => x ≠ .nonterminal .infixExpr && x ≠ .terminal .slash &&
      (x ≠ .nonterminal .valueExpr || operators.all (takes q)) &&
      match leads? q x with
      | none => false
      | some next => takesValues next w

/-- Outside of operations every value may be any operation, and no slash follows it. -/
def encloses (q : Nat) (n : Nonterminal) (p : List Item) : Bool :=
  ofOperations n || takesValues q (Reduction.children p) &&
    ((Reduction.children p).getLast? ≠ some (.nonterminal .valueExpr) ||
      !(follow q n).testBit Terminal.slash.index)

theorem everyProduction_encloses :
    everyBeginning (fun q n => (productions n).all (encloses q n)) = true := by
  decide +kernel

theorem takesValues_spec {q r : Nat} {u w : List Symbol} {x : Symbol}
    (h : takesValues q (u ++ x :: w) = true) (hu : walk q u = some r) :
    x ≠ .nonterminal .infixExpr ∧ x ≠ .terminal .slash ∧
      (x = .nonterminal .valueExpr → ∀ o ∈ operators, takes r o = true) := by
  induction u generalizing q with
  | nil =>
    obtain rfl := Option.some.inj hu
    simp only [List.nil_append, takesValues, Bool.and_eq_true, decide_eq_true_eq, Bool.or_eq_true,
      List.all_eq_true] at h
    exact ⟨h.1.1.1, h.1.1.2, fun hx => h.1.2.resolve_left (not_not.2 hx)⟩
  | cons y u ih =>
    obtain ⟨next, hnext, hrest⟩ := Option.bind_eq_some_iff.1 hu
    simp only [List.cons_append, takesValues, hnext, Bool.and_eq_true] at h
    exact ih h.2 hrest

/-- Outside of operations, any operation may stand as a value, and no operation itself. -/
theorem takes_of_encloses {q next r : Nat} {n : Nonterminal} {p : List Item} {u w : List Symbol}
    {x : Symbol} (behind : goto? q n = some next) (hp : p ∈ productions n)
    (outer : ofOperations n = false) (split : Reduction.children p = u ++ x :: w)
    (hu : walk q u = some r) : x ≠ .nonterminal .infixExpr ∧ x ≠ .terminal .slash ∧
      (x = .nonterminal .valueExpr → ∀ o ∈ operators, takes r o = true) := by
  have hall := List.all_eq_true.1 (of_everyBeginning everyProduction_encloses behind) p hp
  rw [encloses, outer, Bool.false_or, Bool.and_eq_true, split] at hall
  exact takesValues_spec hall.1 hu

/-- Outside of operations, no slash follows a phrase that ends with a value. -/
theorem not_follows_slash {q next : Nat} {n : Nonterminal} {p : List Item} {u : List Symbol}
    (behind : goto? q n = some next) (hp : p ∈ productions n) (outer : ofOperations n = false)
    (split : Reduction.children p = u ++ [.nonterminal .valueExpr]) : ¬ Follows q n .slash := by
  intro follows
  have hall := List.all_eq_true.1 (of_everyBeginning everyProduction_encloses behind) p hp
  rw [encloses, outer, Bool.false_or, Bool.and_eq_true, split, List.getLast?_concat,
    follows.testBit] at hall
  simp at hall

/-- Behind a value and a slash no sum can be an operand, and no further quotient. -/
example : takes 90 .slash = false ∧ takes 70 .slash = true ∧ takes 70 .plus = false := by
  decide +kernel

end Automaton
end Numscript
