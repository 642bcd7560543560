import Numscript.Proofs.Automaton.Goal
import Numscript.Proofs.Packed.Check

/-!
# The packed tables hold the automaton

Every read of the packed tables that a state and a symbol of the language ask for stays inside them, and
what it decodes to is what the automaton does: `decode?_actionsFor?` for the tokens, `value?_nonterminal` for
the phrases, `fields?_layout` and `alias?_layout` for the roles of children. Every row pushes the comments.
-/
namespace Numscript.Packed

open Automaton (Action State action? goto? state? stateCount recovery final)

theorem mem_symbolsOf_of_action? {q : Nat} {s : State} {t : Terminal} (hq : q ≠ recovery)
    (hs : state? q = some s) (h : action? q t ≠ none) : t.index ∈ symbolsOf q s := by
  have hcomments : t.isComment = true → t.index ∈ [1, 2] := by cases t <;> decide
  by_cases hc : t.isComment = true
  · simp only [symbolsOf, List.mem_append]
    exact .inl (.inl (.inl (.inl (hcomments hc))))
  by_cases he : q = final ∧ t = .endOfText
  · rw [he.1, he.2, symbolsOf, if_pos rfl]
    simp only [List.mem_append]
    exact .inl (.inl (.inl (.inr List.mem_cons_self)))
  rw [Automaton.action?_of_plain hq (by simpa using hc) he] at h
  simp only [symbolsOf, List.mem_append]
  cases hl : Automaton.leads? q (.terminal t) with
  | some next =>
    simp only [Automaton.leads?, hs, Option.bind_some, State.leads?, State.shift?] at hl
    have hmem := Automaton.mem_of_lookup hl
    exact .inl (.inl (.inr (List.mem_map.2 ⟨_, hmem, rfl⟩)))
  | none =>
    cases hr : Automaton.reduction? q t with
    | some r =>
      simp only [Automaton.reduction?, hs, Option.bind_some] at hr
      obtain ⟨before, hmem, hbefore⟩ := State.mem_reductions hr
      exact .inl (.inr (List.mem_flatMap.2 ⟨_, hmem, List.mem_map_of_mem hbefore⟩))
    | none => simp [hl, hr] at h

theorem mem_symbolsOf_of_goto? {q next : Nat} {s : State} {n : Nonterminal}
    (hs : state? q = some s) (h : goto? q n = some next) : n.index ∈ symbolsOf q s := by
  simp only [goto?, hs, Option.bind_eq_bind, Option.bind_some, State.goto?] at h
  simp only [symbolsOf, List.mem_append]
  exact .inr (List.mem_map.2 ⟨_, Automaton.mem_of_lookup h, rfl⟩)

theorem exists_row {q : Nat} (hq : 2 ≤ q) (hlt : q < stateCount) : ∃ row, agrees q row = true ∧
    ∀ symbol value, rowValue? symbol row = some value → value? q symbol = some value := by
  have hlength : rows.length = stateCount - 2 := by decide +kernel
  have hoffsets : (starts 0 rows).length = stateCount - 2 := by rw [← offsets_eq_starts]; decide +kernel
  have hindex : q - 2 < rows.length := by omega
  have hrow := List.getElem?_eq_getElem hindex
  have hstart := List.getElem?_eq_getElem (l := starts 0 rows) (i := q - 2) (by omega)
  obtain ⟨-, more, hdrop⟩ := drop_of_starts hrow hstart
  refine ⟨rows[q - 2], ?_, fun symbol value hvalue => ?_⟩
  · have hmem : (rows[q - 2], q) ∈ rows.zipIdx 2 := by
      refine List.mem_iff_getElem?.2 ⟨q - 2, ?_⟩
      rw [List.getElem?_zipIdx, hrow, Option.map_some, Nat.add_sub_cancel' hq]
    exact List.all_eq_true.1 agrees_rows _ hmem
  · rw [value?, if_neg (show ¬ q < large.length from Nat.not_lt.2 hq), offsets_eq_starts]
    rw [show large.length = 2 from rfl, hstart, Option.bind_some, small]
    rw [Nat.sub_zero] at hdrop
    rw [hdrop]
    exact rowValue?_append more hvalue

/-- A row that holds a state has a right value for every symbol. -/
theorem exists_value {q : Nat} {row : List Nat} (h : agrees q row = true) (symbol : Nat) :
    ∃ s value, state? q = some s ∧ rowValue? symbol row = some value ∧
      (agreesAt q value symbol = true ∨ value = 0 ∧ symbol ∉ symbolsOf q s) := by
  match row, h with
  | n :: rest, h =>
    rw [agrees] at h
    split at h
    · next parts s hparts hs =>
      rw [Bool.and_eq_true, beq_iff_eq] at h
      obtain ⟨hvalues, hsymbols⟩ := h
      refine ⟨s, valueIn symbol parts, hs, lookup?_of_sections hparts, ?_⟩
      rcases valueIn_cases symbol parts with ⟨part, hpart, hmem, hvalue⟩ | ⟨hnot, hvalue⟩
      · exact .inl (hvalue ▸ List.all_eq_true.1 (List.all_eq_true.1 hvalues _ hpart) _ hmem)
      · exact .inr ⟨hvalue, fun hmem => hnot ((mem_iff_of_bits_eq hsymbols symbol).2 hmem)⟩
    · cases h

theorem ofIndex?_terminal (t : Terminal) : Symbol.ofIndex? t.index = some (.terminal t) := by
  cases t <;> rfl

theorem ofIndex?_nonterminal (n : Nonterminal) : Symbol.ofIndex? n.index = some (.nonterminal n) := by
  cases n <;> rfl

/-- What is read for a token is the entry for what the automaton does with it. -/
theorem actionsFor?_terminal {q : Nat} (h : q < stateCount) (t : Terminal) :
    actionsFor? q t.index = some (actionsOf (action? q t)) := by
  have hindex : t.index ≠ Symbol.errorIndex := by cases t <;> decide
  rw [actionsFor?, if_neg hindex]
  by_cases hq : q < 2
  · exact (agrees_large q hq).1 t (Terminal.mem_all t)
  obtain ⟨row, hrow, hread⟩ := exists_row (Nat.le_of_not_lt hq) h
  obtain ⟨s, value, hs, hvalue, hagrees⟩ := exists_value hrow t.index
  rw [hread _ _ hvalue, Option.bind_some]
  rcases hagrees with hagrees | ⟨rfl, hnot⟩
  · simpa [agreesAt, ofIndex?_terminal] using hagrees
  · have hnone : action? q t = none := by
      by_contra hacts
      exact hnot (mem_symbolsOf_of_action? (by rintro rfl; exact hq (by decide)) hs hacts)
    rw [hnone]
    rfl

theorem Slot.reduction?_ofReduction (r : Automaton.Reduction) : (ofReduction r).reduction? = some r := by
  simp only [ofReduction, reduction?, ofIndex?_nonterminal, Layout.all_index]

theorem decode?_actionsOf (a : Option Action) : decode? (actionsOf a) = some a := by
  cases a with
  | none => rfl
  | some a =>
    cases a with
    | reduce r => exact congrArg (Option.map fun r => some (Action.reduce r)) (Slot.reduction?_ofReduction r)
    | both next r =>
      exact congrArg (Option.map fun r => some (Action.both next r)) (Slot.reduction?_ofReduction r)
    | _ => rfl

/-- The packed tables decode to what the automaton does. -/
theorem decode?_actionsFor? {q : Nat} (h : q < stateCount) (t : Terminal) :
    (actionsFor? q t.index).bind decode? = some (action? q t) := by
  rw [actionsFor?_terminal h, Option.bind_some, decode?_actionsOf]

/-- What is read for a phrase is where it leads, zero if nowhere. -/
theorem value?_nonterminal {q : Nat} (h : q < stateCount) (n : Nonterminal) :
    value? q n.index = some ((goto? q n).getD 0) := by
  by_cases hq : q < 2
  · exact (agrees_large q hq).2 n (Nonterminal.mem_all n)
  obtain ⟨row, hrow, hread⟩ := exists_row (Nat.le_of_not_lt hq) h
  obtain ⟨s, value, hs, hvalue, hagrees⟩ := exists_value hrow n.index
  rw [hread _ _ hvalue]
  rcases hagrees with hagrees | ⟨rfl, hnot⟩
  · simp only [agreesAt, ofIndex?_nonterminal, decide_eq_true_eq] at hagrees
    rw [hagrees, Option.getD_some]
  · cases hgoto : goto? q n with
    | none => rfl
    | some next => exact absurd (mem_symbolsOf_of_goto? hs hgoto) hnot

/-- The roles of the first children, as the tables and the layouts tell them. -/
theorem agrees_roles : ∀ l ∈ Layout.all,
    ((fields? l.index).any fun entries =>
      entries.all (fun e => Field.all.any fun f => f.index == e.1 && l.field? e.2 == some f) &&
      Field.all.all fun f => (List.range aliasLength).all fun place =>
        l.field? place != some f || entries.contains (f.index, place)) = true ∧
    ∀ place < aliasLength, alias? l.index place = some ((l.alias? place).elim 0 Alias.index) := by
  decide

/-- The field entries of a production are all inside their table, and are those of its layout. -/
theorem fields?_layout (l : Layout) : ∃ entries, fields? l.index = some entries ∧
    ∀ e : Nat × Nat, e ∈ entries ↔ ∃ f : Field, f.index = e.1 ∧ l.field? e.2 = some f := by
  obtain ⟨entries, hentries, hagrees⟩ :=
    (Option.any_eq_true _ _).1 (agrees_roles l (Layout.mem_all l)).1
  simp only [Bool.and_eq_true, List.all_eq_true, List.any_eq_true, beq_iff_eq, Bool.or_eq_true,
    bne_iff_ne, List.contains_eq_mem, decide_eq_true_eq] at hagrees
  refine ⟨entries, hentries, fun e => ⟨fun he => ?_, fun ⟨f, hindex, hfield⟩ => ?_⟩⟩
  · obtain ⟨f, -, hf⟩ := hagrees.1 e he
    exact ⟨f, hf⟩
  · have hreach : l.reach ≤ aliasLength := by cases l <;> decide
    have hplace := Nat.lt_of_lt_of_le (Layout.lt_reach_of_field? hfield) hreach
    have hmem := hagrees.2 f (Field.mem_all f) e.2 (List.mem_range.2 hplace)
    rw [← Prod.eta e, ← hindex]
    exact hmem.resolve_left (not_not_intro hfield)

/-- The aliases of a production are those of its layout. -/
theorem alias?_layout (l : Layout) {place : Nat} (h : place < aliasLength) :
    alias? l.index place = some ((l.alias? place).elim 0 Alias.index) :=
  (agrees_roles l (Layout.mem_all l)).2 place h

theorem actionsFor?_comment {q : Nat} (h : q < stateCount) {t : Terminal} (comment : t.isComment = true) :
    actionsFor? q t.index = some [.shiftExtra] := by
  rw [actionsFor?_terminal h, action?, if_pos comment]
  rfl

end Numscript.Packed
