import Numscript.Proofs.Regular.Partial

/-!
# Letters of expressions

The letters that the words of an expression are made of, and those that they may begin with.
-/
namespace Numscript

namespace Regular

variable {α β : Type} {sat : α → β → Bool}

/-- Where no letter that an expression may begin with is met, nothing remains of it. -/
theorem partials_eq_nil {b : β} {r : Regular α} (h : ∀ a ∈ r.firsts, sat a b = false) :
    r.partials sat b = [] := by
  induction r with
  | never => rfl
  | done => rfl
  | one a => simp [partials, h a (List.mem_singleton.2 rfl)]
  | seq r s ihr ihs =>
    rw [firsts] at h
    have hr := ihr fun a ha => h a (List.mem_append_left _ ha)
    by_cases hn : r.nullable = true
    · have hs := ihs fun a ha => h a (List.mem_append_right _ (by simpa [hn] using ha))
      simp [partials, hr, hs]
    · simp [partials, hr, hn]
  | alt r s ihr ihs =>
    rw [firsts] at h
    rw [partials, ihr fun a ha => h a (List.mem_append_left _ ha),
      ihs fun a ha => h a (List.mem_append_right _ ha), List.append_nil]
  | many r ih =>
    rw [partials, ih h]
    rfl

theorem exists_first {b : β} {r : Regular α} {w : List β} (h : Fits sat r (b :: w)) :
    ∃ a ∈ r.firsts, sat a b = true := by
  obtain ⟨s, hs, _⟩ := fits_cons_iff_partials.1 h
  have hany : r.firsts.any (sat · b) = true := by
    cases hnone : r.firsts.any (sat · b) with
    | true => rfl
    | false =>
      rw [partials_eq_nil (by simpa using hnone)] at hs
      cases hs
  simpa using hany

/-- The letters of an expression. -/
def letters : Regular α → List α
  | .never | .done => []
  | .one a => [a]
  | .seq r s | .alt r s => r.letters ++ s.letters
  | .many r => r.letters

theorem exists_letter {r : Regular α} {w : List β} (h : Fits sat r w) {b : β} (hb : b ∈ w) :
    ∃ a ∈ r.letters, sat a b = true := by
  induction h with
  | done => cases hb
  | one h =>
    obtain rfl := List.mem_singleton.1 hb
    exact ⟨_, List.mem_singleton.2 rfl, h⟩
  | seq _ _ ihr ihs =>
    rcases List.mem_append.1 hb with hb | hb
    · obtain ⟨a, ha, hab⟩ := ihr hb
      exact ⟨a, List.mem_append_left _ ha, hab⟩
    · obtain ⟨a, ha, hab⟩ := ihs hb
      exact ⟨a, List.mem_append_right _ ha, hab⟩
  | left _ ih =>
    obtain ⟨a, ha, hab⟩ := ih hb
    exact ⟨a, List.mem_append_left _ ha, hab⟩
  | right _ ih =>
    obtain ⟨a, ha, hab⟩ := ih hb
    exact ⟨a, List.mem_append_right _ ha, hab⟩
  | manyNil => cases hb
  | manyCons _ _ ihr ihs =>
    rcases List.mem_append.1 hb with hb | hb
    · exact ihr hb
    · exact ihs hb

end Regular
end Numscript
