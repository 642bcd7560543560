import Numscript.Regular.Lemmas

/-!
# Partial derivatives

What remains of an expression behind a letter, as a list of alternatives. Where `deriv` builds ever
larger expressions, the alternatives of a list are pieces of the expression that was taken apart, and
there are only finitely many of them.
-/
namespace Numscript

deriving instance DecidableEq for Regular

namespace Regular

variable {α β : Type} {sat : α → β → Bool}

/-- The alternatives that remain of an expression behind a letter. -/
def partials (sat : α → β → Bool) (b : β) : Regular α → List (Regular α)
  | .never | .done => []
  | .one a => if sat a b then [.done] else []
  | .seq r s =>
    (r.partials sat b).map (andThen · s) ++ if r.nullable then s.partials sat b else []
  | .alt r s => r.partials sat b ++ s.partials sat b
  | .many r => (r.partials sat b).map (andThen · (.many r))

/-- The letters that an expression may begin with. -/
def firsts : Regular α → List α
  | .never | .done => []
  | .one a => [a]
  | .seq r s => r.firsts ++ if r.nullable then s.firsts else []
  | .alt r s => r.firsts ++ s.firsts
  | .many r => r.firsts

theorem exists_map_andThen {rs : List (Regular α)} {s : Regular α} {w : List β} :
    (∃ r ∈ rs.map (andThen · s), Fits sat r w) ↔
      ∃ u v, w = u ++ v ∧ (∃ r ∈ rs, Fits sat r u) ∧ Fits sat s v := by
  constructor
  · rintro ⟨_, hmem, hfits⟩
    obtain ⟨r, hr, rfl⟩ := List.mem_map.1 hmem
    obtain ⟨u, v, rfl, hu, hv⟩ := fits_seq_iff.1 (fits_andThen_iff.1 hfits)
    exact ⟨u, v, rfl, ⟨r, hr, hu⟩, hv⟩
  · rintro ⟨u, v, rfl, ⟨r, hr, hu⟩, hv⟩
    exact ⟨_, List.mem_map.2 ⟨r, hr, rfl⟩, fits_andThen_iff.2 (.seq hu hv)⟩

theorem fits_deriv_iff_partials {b : β} {r : Regular α} {w : List β} :
    Fits sat (r.deriv sat b) w ↔ ∃ s ∈ r.partials sat b, Fits sat s w := by
  induction r generalizing w with
  | never => simp [deriv, partials, fits_never]
  | done => simp [deriv, partials, fits_never]
  | one a =>
    by_cases hab : sat a b = true
    · simp [deriv, partials, hab]
    · simp [deriv, partials, hab, fits_never]
  | seq r s ihr ihs =>
    have hfirst : Fits sat (andThen (r.deriv sat b) s) w ↔
        ∃ t ∈ (r.partials sat b).map (andThen · s), Fits sat t w := by
      rw [fits_andThen_iff, fits_seq_iff, exists_map_andThen]
      simp only [ihr]
    by_cases hn : r.nullable = true
    · simp only [deriv, partials, hn, if_true, fits_orElse_iff, fits_alt_iff, hfirst, ihs,
        List.mem_append, or_and_right, exists_or]
    · have hderiv : (Regular.seq r s).deriv sat b = andThen (r.deriv sat b) s := by
        simp [deriv, hn]
      have hpartials : (Regular.seq r s).partials sat b =
          (r.partials sat b).map (andThen · s) := by simp [partials, hn]
      rw [hderiv, hpartials]
      exact hfirst
  | alt r s ihr ihs =>
    simp only [deriv, partials, fits_orElse_iff, fits_alt_iff, ihr, ihs, List.mem_append,
      or_and_right, exists_or]
  | many r ih =>
    rw [deriv, partials, fits_andThen_iff, fits_seq_iff, exists_map_andThen]
    simp only [ih]

/-- A word fits an expression when what follows its first letter fits an alternative. -/
theorem fits_cons_iff_partials {b : β} {r : Regular α} {w : List β} :
    Fits sat r (b :: w) ↔ ∃ s ∈ r.partials sat b, Fits sat s w :=
  fits_cons_iff.trans fits_deriv_iff_partials

theorem partials_congr {γ : Type} {sat' : α → γ → Bool} {b : β} {c : γ} {r : Regular α}
    (h : ∀ a ∈ r.firsts, sat a b = sat' a c) : r.partials sat b = r.partials sat' c := by
  induction r with
  | never => rfl
  | done => rfl
  | one a => simp only [partials, h a (List.mem_singleton.2 rfl)]
  | seq r s ihr ihs =>
    rw [firsts] at h
    have hr := ihr fun a ha => h a (List.mem_append_left _ ha)
    by_cases hn : r.nullable = true
    · have hs := ihs fun a ha => h a (List.mem_append_right _ (by simpa [hn] using ha))
      simp only [partials, hr, hs]
    · simp only [partials, hr, hn]
      rfl
  | alt r s ihr ihs =>
    rw [firsts] at h
    rw [partials, partials, ihr fun a ha => h a (List.mem_append_left _ ha),
      ihs fun a ha => h a (List.mem_append_right _ ha)]
  | many r ih => rw [partials, partials, ih h]

end Regular
end Numscript
