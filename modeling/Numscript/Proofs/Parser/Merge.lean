import Numscript.Proofs.Parser.Beside

/-!
# Readings that come to the same states

Two readings in the same place with the same states of their phrases and tokens have the same outline, as
twins hold the same comments in the same places. Of such readings only the first one goes on.
-/
namespace Numscript.Parser

open Automaton (crossings shutPairs twinPairs leads? goto?)

theorem edges_of_shutPairs : ∀ p ∈ shutPairs, ∀ q ∈ [p.1, p.2], ∀ s ∈ Automaton.state? q,
    s.edges = [] := by
  decide +kernel

theorem not_shut_of_leads {a b n m : Nat} {x y : Symbol} (leads : leads? a x = some n)
    (leads' : leads? b y = some m) : (a, b) ∉ shutPairs ∧ (b, a) ∉ shutPairs := by
  have hnone : ∀ {p : Nat × Nat} {q n : Nat} {x : Symbol}, p ∈ shutPairs → q ∈ [p.1, p.2] →
      leads? q x ≠ some n := by
    intro p q n x mem hq h
    obtain ⟨s, hs, hedge⟩ := Option.bind_eq_some_iff.1 h
    have hmem := Automaton.State.mem_edges hedge
    rw [edges_of_shutPairs p mem q hq s hs] at hmem
    cases hmem
  exact ⟨fun mem => hnone mem (by simp) leads, fun mem => hnone mem (by simp) leads'⟩

theorem Twin.length_eq {s t : Stack} (h : Twin s t) (first : (s.state, t.state) ∉ shutPairs)
    (second : (t.state, s.state) ∉ shutPairs) : s.length = t.length := by
  have hopen : ∀ x ∈ crossings, (x.opening, x.opening) ∉ shutPairs := by decide
  induction h with
  | empty => rfl
  | comment _ _ ih => exact congrArg (· + 1) (ih first second)
  | read _ _ _ _ _ leads leads' ih =>
    obtain ⟨hfirst, hsecond⟩ := not_shut_of_leads leads leads'
    exact congrArg (· + 1) (ih hfirst hsecond)
  | opened _ mem hs ht _ ih =>
    exact congrArg (· + 1) (ih (by rw [hs, ht]; exact hopen _ mem) (by rw [hs, ht]; exact hopen _ mem))
  | opened' _ mem hs ht _ ih =>
    exact congrArg (· + 1) (ih (by rw [hs, ht]; exact hopen _ mem) (by rw [hs, ht]; exact hopen _ mem))
  | shut _ mem => exact absurd (crossings_seams _ mem).2.1 first
  | shut' _ mem => exact absurd (crossings_seams _ mem).2.1 second
  | turned _ _ _ leads leads' _ ih =>
    rw [← leads?_nonterminal] at leads leads'
    obtain ⟨hfirst, hsecond⟩ := not_shut_of_leads leads leads'
    exact congrArg (· + 1) (ih hfirst hsecond)
  | turned' _ _ _ leads leads' _ ih =>
    rw [← leads?_nonterminal] at leads leads'
    obtain ⟨hfirst, hsecond⟩ := not_shut_of_leads leads leads'
    exact congrArg (· + 1) (ih hfirst hsecond)

theorem Twin.outline_eq {s t : Stack} (h : Twin s t) (hs : Viable s) (ht : Viable t)
    (spine : s.spine = t.spine) : s.outline = t.outline := by
  have hsides : ∀ {p q : Nat × Nat}, p ∈ twinPairs → q ∈ twinPairs → p.1 ≠ q.2 :=
    fun hp hq => Automaton.twinPairs_sides _ hp _ hq
  have hstate : ∀ {s t : Stack}, Viable s → Viable t → s.spine = t.spine → s.state = t.state := by
    intro s t hs ht spine
    rw [← hs.top_spine, ← ht.top_spine, spine]
  have hshut : ∀ x ∈ crossings, (x.word, 518) ∈ twinPairs ∧ (x.closing, x.closing') ∈ twinPairs := by
    decide
  have hturned : ∀ p ∈ Automaton.turnedPairs, p ∈ twinPairs := by decide
  induction h with
  | empty => rfl
  | comment _ hc ih =>
    rw [Stack.spine_comment hc, Stack.spine_comment hc] at spine
    have heq := ih hs.tail ht.tail spine
    rw [Stack.outline] at heq ⊢
    rw [List.map_cons, heq, hstate hs.tail ht.tail spine]
    rfl
  | @read s t c d n m _ plain plain' _ _ _ _ ih =>
    rw [Stack.spine_cons plain, Stack.spine_cons plain'] at spine
    obtain ⟨hn, hspine⟩ := List.cons.inj spine
    obtain rfl : n = m := hn
    have heq := ih hs.tail ht.tail hspine
    rw [Stack.outline] at heq ⊢
    rw [List.map_cons, heq, plain, ← plain']
    rfl
  | opened _ mem => exact absurd (hstate hs ht spine) (hsides (hshut _ mem).1 (hshut _ mem).1)
  | opened' _ mem =>
    exact absurd (hstate hs ht spine).symm (hsides (hshut _ mem).1 (hshut _ mem).1)
  | shut _ mem => exact absurd (hstate hs ht spine) (hsides (hshut _ mem).2 (hshut _ mem).2)
  | shut' _ mem =>
    exact absurd (hstate hs ht spine).symm (hsides (hshut _ mem).2 (hshut _ mem).2)
  | turned _ _ _ _ _ pair =>
    exact absurd (hstate hs ht spine) (hsides (hturned _ pair) (hturned _ pair))
  | turned' _ _ _ _ _ pair =>
    exact absurd (hstate hs ht spine).symm (hsides (hturned _ pair) (hturned _ pair))

theorem Astray.ne {s t : List Nat} (h : Astray s t) : s ≠ t := by
  induction h with
  | base h =>
    obtain ⟨q, l, l', hq, rfl, hs⟩ := h
    rcases hq with rfl | rfl <;> rcases hs with rfl | rfl <;> simp
  | read _ _ _ _ ih => exact fun heq => ih (List.cons.inj heq).2

/-- Readings that stand in the same place are twins, or have read a hyphen differently. -/
theorem Beside.twin_or_astray {text : List Glyph} {x y : Reading} (h : Beside text x y)
    (byte : x.point.byte = y.point.byte) :
    Twin x.stack y.stack ∨ Astray x.stack.spine y.stack.spine := by
  cases h with
  | twin _ twin => exact .inl twin
  | astray _ astray => exact .inr astray
  | ahead _ _ place place' number =>
    obtain ⟨d, w, rfl, _⟩ := Lexer.exists_digit number
    rw [place, place', Point.origin_behind_byte, Point.origin_behind_byte,
      Glyph.totalSize_append, Glyph.totalSize] at byte
    have hpos := d.size_pos
    omega
  | doomed _ _ _ behind => omega

theorem Frontier.twin_or_astray {text before : List Glyph} {x y : Reading}
    (hx : Frontier text before x) (hy : Frontier text before y) (point : x.point = y.point) :
    Twin x.stack y.stack ∨ Astray x.stack.spine y.stack.spine ∨
      Astray y.stack.spine x.stack.spine := by
  rcases hx.beside hy with h | h
  · exact (h.twin_or_astray (by rw [point])).imp_right .inl
  · exact (h.twin_or_astray (by rw [point])).imp Twin.symm .inr

/-- Readings with the same spine in the same place have the same outline. -/
theorem Frontier.outline_eq {text before : List Glyph} {x y : Reading}
    (hx : Frontier text before x) (hy : Frontier text before y) (point : x.point = y.point)
    (spine : x.stack.spine = y.stack.spine) : x.stack.outline = y.stack.outline := by
  rcases hx.twin_or_astray hy point with twin | astray | astray
  · exact twin.outline_eq hx.viable hy.viable spine
  · exact absurd spine astray.ne
  · exact absurd spine.symm astray.ne

end Numscript.Parser
