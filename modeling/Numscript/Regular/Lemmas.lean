import Numscript.Regular.Basic

/-!
# Deciding regular expressions

`accepts` decides `Fits`: a word fits an expression if and only if taking the expression apart
letter by letter ends in one that describes the empty word.
-/
namespace Numscript.Regular

variable {α β : Type} {sat : α → β → Bool}

theorem fits_nil_iff (r : Regular α) : Fits sat r ([] : List β) ↔ r.nullable = true := by
  constructor
  · intro h
    generalize hw : ([] : List β) = w at h
    induction h with
    | done => rfl
    | one => simp at hw
    | seq _ _ ihr ihs =>
      have hv := List.append_eq_nil_iff.1 hw.symm
      simp [nullable, ihr hv.1.symm, ihs hv.2.symm]
    | left _ ih => simp [nullable, ih hw]
    | right _ ih => simp [nullable, ih hw]
    | manyNil => rfl
    | manyCons => rfl
  · intro h
    induction r with
    | never => simp [nullable] at h
    | done => exact .done
    | one => simp [nullable] at h
    | seq r s ihr ihs =>
      simp only [nullable, Bool.and_eq_true] at h
      exact .seq (v := []) (ihr h.1) (ihs h.2)
    | alt r s ihr ihs =>
      simp only [nullable, Bool.or_eq_true] at h
      exact h.elim (fun hr => .left (ihr hr)) (fun hs => .right (ihs hs))
    | many => exact .manyNil

theorem fits_never {w : List β} : ¬ Fits sat (.never : Regular α) w := nofun

theorem fits_seq_iff {r s : Regular α} {w : List β} :
    Fits sat (.seq r s) w ↔ ∃ u v, w = u ++ v ∧ Fits sat r u ∧ Fits sat s v := by
  constructor
  · intro h
    cases h with
    | seq hr hs => exact ⟨_, _, rfl, hr, hs⟩
  · rintro ⟨u, v, rfl, hr, hs⟩
    exact .seq hr hs

theorem fits_alt_iff {r s : Regular α} {w : List β} :
    Fits sat (.alt r s) w ↔ Fits sat r w ∨ Fits sat s w := by
  constructor
  · intro h
    cases h with
    | left h => exact .inl h
    | right h => exact .inr h
  · exact fun h => h.elim .left .right

theorem fits_andThen_iff {r s : Regular α} {w : List β} :
    Fits sat (andThen r s) w ↔ Fits sat (.seq r s) w := by
  unfold andThen
  split
  · constructor
    · exact fun h => absurd h fits_never
    · intro h
      obtain ⟨_, _, _, hr, _⟩ := fits_seq_iff.1 h
      exact absurd hr fits_never
  · constructor
    · exact fun h => .seq (v := []) .done h
    · intro h
      obtain ⟨u, v, rfl, hr, hs⟩ := fits_seq_iff.1 h
      cases hr
      exact hs
  · exact Iff.rfl

theorem fits_orElse_iff {r s : Regular α} {w : List β} :
    Fits sat (orElse r s) w ↔ Fits sat (.alt r s) w := by
  rw [fits_alt_iff]
  unfold orElse
  split
  · exact ⟨.inr, fun h => h.resolve_left fits_never⟩
  · exact ⟨.inl, fun h => h.resolve_right fits_never⟩
  · exact fits_alt_iff

/-- A word that an expression describes behind a letter completes that letter to a word. -/
theorem Fits.cons {b : β} : ∀ {r : Regular α} {w : List β},
    Fits sat (r.deriv sat b) w → Fits sat r (b :: w)
  | .never, _, h => absurd h fits_never
  | .done, _, h => absurd h fits_never
  | .one a, w, h => by
    by_cases hab : sat a b = true
    · simp only [deriv, hab, if_true] at h
      cases h
      exact .one hab
    · simp only [deriv, hab] at h
      exact absurd h fits_never
  | .seq r s, w, h => by
    have main : ∀ {w : List β}, Fits sat (andThen (r.deriv sat b) s) w →
        Fits sat (.seq r s) (b :: w) := by
      intro w h
      obtain ⟨u, v, rfl, hr, hs⟩ := fits_seq_iff.1 (fits_andThen_iff.1 h)
      exact .seq (Fits.cons hr) hs
    by_cases hn : r.nullable = true
    · simp only [deriv, hn, if_true] at h
      rcases fits_alt_iff.1 (fits_orElse_iff.1 h) with h | h
      · exact main h
      · exact .seq (v := []) ((fits_nil_iff r).2 hn) (Fits.cons h)
    · simp only [deriv, hn] at h
      exact main h
  | .alt r s, w, h => by
    rcases fits_alt_iff.1 (fits_orElse_iff.1 h) with h | h
    · exact .left (Fits.cons h)
    · exact .right (Fits.cons h)
  | .many r, w, h => by
    obtain ⟨u, v, rfl, hr, hs⟩ := fits_seq_iff.1 (fits_andThen_iff.1 h)
    exact .manyCons (Fits.cons hr) hs

theorem Fits.tail {r : Regular α} {v : List β} (h : Fits sat r v) :
    ∀ {b : β} {w : List β}, v = b :: w → Fits sat (r.deriv sat b) w := by
  induction h with
  | done => intro b w hv; simp at hv
  | one hab =>
    intro b w hv
    obtain ⟨rfl, rfl⟩ := List.cons.inj hv
    simpa [deriv, hab] using Fits.done
  | @seq r s v u hr hs ihr ihs =>
    intro b w hv
    cases v with
    | nil =>
      have hn := (fits_nil_iff r).1 hr
      simp only [deriv, hn, if_true]
      exact fits_orElse_iff.2 (.right (ihs hv))
    | cons c v =>
      obtain ⟨rfl, rfl⟩ := List.cons.inj hv
      have hd := fits_andThen_iff.2 (Fits.seq (ihr rfl) hs)
      by_cases hn : r.nullable = true
      · simp only [deriv, hn, if_true]
        exact fits_orElse_iff.2 (.left hd)
      · simp only [deriv, hn]
        exact hd
  | left _ ih => intro b w hv; exact fits_orElse_iff.2 (.left (ih hv))
  | right _ ih => intro b w hv; exact fits_orElse_iff.2 (.right (ih hv))
  | manyNil => intro b w hv; simp at hv
  | @manyCons r v u hr hs ihr ihs =>
    intro b w hv
    cases v with
    | nil => exact ihs hv
    | cons c v =>
      obtain ⟨rfl, rfl⟩ := List.cons.inj hv
      exact fits_andThen_iff.2 (.seq (ihr rfl) hs)

theorem fits_cons_iff {r : Regular α} {b : β} {w : List β} :
    Fits sat r (b :: w) ↔ Fits sat (r.deriv sat b) w :=
  ⟨fun h => h.tail rfl, Fits.cons⟩

theorem accepts_iff {r : Regular α} {w : List β} : r.accepts sat w = true ↔ Fits sat r w := by
  induction w generalizing r with
  | nil => exact (fits_nil_iff r).symm
  | cons b w ih => rw [accepts, ih, fits_cons_iff]

end Numscript.Regular
