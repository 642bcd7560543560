import Numscript.Packed.Table

/-!
# Reading a packed row

A row is cut into its sections once, and what a symbol has for its value is told by them. A read that
succeeds in a row succeeds in every table that goes on behind the row, so the one long table can be read
row by row.
-/
namespace Numscript.Packed

variable {symbol count : Nat}

theorem among?_of_mem {row : List Nat} (h : symbol ∈ row.take count) :
    ∃ behind, among? symbol count row = some (true, behind) := by
  induction count generalizing row with
  | zero => simp at h
  | succ count ih =>
    cases row with
    | nil => simp at h
    | cons s row =>
      rw [among?]
      split
      · exact ⟨row, rfl⟩
      · next hne =>
        rcases List.mem_cons.1 h with rfl | h
        · exact absurd rfl hne
        · exact ih h

theorem among?_of_not_mem {row : List Nat} (long : count ≤ row.length)
    (h : symbol ∉ row.take count) : among? symbol count row = some (false, row.drop count) := by
  induction count generalizing row with
  | zero => rfl
  | succ count ih =>
    cases row with
    | nil => simp at long
    | cons s row =>
      rw [List.take_succ_cons, List.mem_cons, not_or] at h
      rw [among?, if_neg (Ne.symm h.1), List.drop_succ_cons]
      exact ih (Nat.le_of_succ_le_succ long) h.2

theorem among?_append {row behind : List Nat} {found : Bool} (more : List Nat)
    (h : among? symbol count row = some (found, behind)) :
    among? symbol count (row ++ more) = some (found, behind ++ more) := by
  induction count generalizing row with
  | zero =>
    obtain ⟨rfl, rfl⟩ := Prod.mk.inj (Option.some.inj h)
    rfl
  | succ count ih =>
    cases row with
    | nil => cases h
    | cons s row =>
      rw [among?] at h
      rw [List.cons_append, among?]
      split at h
      · next heq =>
        obtain ⟨rfl, rfl⟩ := Prod.mk.inj (Option.some.inj h)
        rw [if_pos heq]
      · next hne =>
        rw [if_neg hne]
        exact ih h

theorem lookup?_append {sections value : Nat} {row : List Nat} (more : List Nat)
    (h : lookup? symbol sections row = some value) :
    lookup? symbol sections (row ++ more) = some value := by
  induction sections generalizing row with
  | zero => exact h
  | succ sections ih =>
    match row, h with
    | v :: count :: row, h =>
      rw [lookup?] at h
      rw [List.cons_append, List.cons_append, lookup?]
      cases hread : among? symbol count row with
      | none => simp [hread] at h
      | some read =>
        obtain ⟨found, behind⟩ := read
        rw [hread] at h
        rw [among?_append more hread]
        cases found with
        | true => exact h
        | false => exact ih h

theorem rowValue?_append {value : Nat} {row : List Nat} (more : List Nat)
    (h : rowValue? symbol row = some value) : rowValue? symbol (row ++ more) = some value := by
  cases row with
  | nil => cases h
  | cons sections row => exact lookup?_append more h

/-- A row cut into its sections: a value and the symbols that have it. -/
def sections? : (sections : Nat) → List Nat → Option (List (Nat × List Nat))
  | 0, _ => some []
  | sections + 1, value :: count :: rest =>
    if (rest.take count).length = count then
      (sections? sections (rest.drop count)).map ((value, rest.take count) :: ·)
    else none
  | _ + 1, _ => none

/-- The value of a symbol by the sections, zero if it is in none of them. -/
def valueIn (symbol : Nat) (sections : List (Nat × List Nat)) : Nat :=
  ((sections.find? (·.2.contains symbol)).map (·.1)).getD 0

theorem lookup?_of_sections {n : Nat} {row : List Nat} {sections : List (Nat × List Nat)}
    (h : sections? n row = some sections) : lookup? symbol n row = some (valueIn symbol sections) := by
  induction n generalizing row sections with
  | zero =>
    obtain rfl := Option.some.inj h
    rfl
  | succ n ih =>
    match row, h with
    | value :: count :: row, h =>
      rw [sections?] at h
      split at h
      · next hlength =>
        obtain ⟨later, hlater, rfl⟩ := Option.map_eq_some_iff.1 h
        rw [lookup?]
        by_cases hmem : symbol ∈ row.take count
        · obtain ⟨behind, hfound⟩ := among?_of_mem hmem
          simp [hfound, valueIn, hmem]
        · rw [among?_of_not_mem (by rw [List.length_take] at hlength; omega) hmem]
          simpa [valueIn, hmem] using ih hlater
      · cases h

/-- A symbol has a value of one of the sections that it is in, or zero if it is in none. -/
theorem valueIn_cases (symbol : Nat) (sections : List (Nat × List Nat)) :
    (∃ s ∈ sections, symbol ∈ s.2 ∧ valueIn symbol sections = s.1) ∨
      symbol ∉ sections.flatMap (·.2) ∧ valueIn symbol sections = 0 := by
  rw [valueIn]
  cases hfind : sections.find? (·.2.contains symbol) with
  | some s =>
    have hmem := List.find?_some hfind
    exact .inl ⟨s, List.mem_of_find?_eq_some hfind, by simpa using hmem, rfl⟩
  | none =>
    refine .inr ⟨fun hmem => ?_, rfl⟩
    obtain ⟨s, hs, hin⟩ := List.mem_flatMap.1 hmem
    have hnone := List.find?_eq_none.1 hfind s hs
    simp [hin] at hnone

/-- Where each of some rows starts when they lie one behind the other. -/
def starts : (offset : Nat) → List (List Nat) → List Nat
  | _, [] => []
  | offset, row :: rows => offset :: starts (offset + row.length) rows

theorem drop_of_starts {rows : List (List Nat)} {base i start : Nat} {row : List Nat}
    (hrow : rows[i]? = some row) (hstart : (starts base rows)[i]? = some start) :
    base ≤ start ∧ ∃ more, rows.flatten.drop (start - base) = row ++ more := by
  induction rows generalizing base i with
  | nil => simp at hrow
  | cons first rows ih =>
    cases i with
    | zero =>
      obtain rfl : first = row := by simpa using hrow
      obtain rfl : base = start := by simpa [starts] using hstart
      exact ⟨Nat.le_refl base, rows.flatten, by simp⟩
    | succ i =>
      rw [List.getElem?_cons_succ] at hrow
      rw [starts, List.getElem?_cons_succ] at hstart
      obtain ⟨hle, more, hdrop⟩ := ih hrow hstart
      refine ⟨by omega, more, ?_⟩
      obtain ⟨later, rfl⟩ := Nat.exists_eq_add_of_le hle
      rw [Nat.add_sub_cancel_left] at hdrop
      rw [List.flatten_cons, Nat.add_assoc, Nat.add_sub_cancel_left, List.drop_append,
        Nat.add_sub_cancel_left, hdrop, List.drop_eq_nil_of_le (Nat.le_add_right _ _), List.nil_append]

end Numscript.Packed
