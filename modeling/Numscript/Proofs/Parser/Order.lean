import Numscript.Proofs.Parser.Sweep

/-!
# The order of the readings

What stands before a reading in the list of all that a front stands for: the readings with an earlier upper
part, over any lower part, and those with the same upper part over an earlier lower part. A reading that is
kept has no rival before it, and all that stood before it is still there, or a rival of it is.
-/
namespace Numscript.Parser

theorem flatMap_eq_append_cons {α β : Type} {f : α → List β} {l : List α} {before behind : List β}
    {b : β} (h : l.flatMap f = before ++ b :: behind) : ∃ l₁ x l₂ b₁ b₂, l = l₁ ++ x :: l₂ ∧
      f x = b₁ ++ b :: b₂ ∧ before = l₁.flatMap f ++ b₁ := by
  induction l generalizing before with
  | nil => simp at h
  | cons x l ih =>
    rw [List.flatMap_cons] at h
    rcases List.append_eq_append_iff.1 h with ⟨m, rfl, hm⟩ | ⟨m, hx, hm⟩
    · obtain ⟨l₁, y, l₂, b₁, b₂, rfl, hy, rfl⟩ := ih hm
      exact ⟨x :: l₁, y, l₂, b₁, b₂, rfl, hy, by simp⟩
    · cases m with
      | nil =>
        obtain ⟨l₁, y, l₂, b₁, b₂, rfl, hy, hnil⟩ := @ih [] hm.symm
        refine ⟨x :: l₁, y, l₂, b₁, b₂, rfl, hy, ?_⟩
        rw [List.flatMap_cons, hx, List.append_nil, List.append_assoc, ← hnil, List.append_nil]
      | cons c m =>
        obtain ⟨rfl, _⟩ := List.cons.inj hm
        exact ⟨[], x, l, before, m, rfl, hx, rfl⟩

/-- What stands before one of the readings that a front stands for. -/
theorem wholes_eq_append_cons {spine : List Junction} {readings earlier later : List Reading}
    {x : Reading} (h : wholes spine readings = earlier ++ x :: later) :
    ∃ l₁ r l₂ t₁ t t₂, readings = l₁ ++ r :: l₂ ∧ tails spine = t₁ ++ t :: t₂ ∧ x = r.over t ∧
      earlier = wholes spine l₁ ++ t₁.map r.over := by
  obtain ⟨l₁, r, l₂, b₁, b₂, hreadings, hmap, rfl⟩ := flatMap_eq_append_cons h
  obtain ⟨t₁, rest, htails, rfl, hrest⟩ := List.map_eq_append_iff.1 hmap
  obtain ⟨t, t₂, rfl, rfl, _⟩ := List.map_eq_cons_iff.1 hrest
  exact ⟨l₁, r, l₂, t₁, t, t₂, hreadings, htails, rfl, rfl⟩

theorem wholes_append_cons {spine : List Junction} {l₁ l₂ : List Reading} {r : Reading}
    {t₁ t₂ : List Stack} {t : Stack} (h : tails spine = t₁ ++ t :: t₂) :
    wholes spine (l₁ ++ r :: l₂) = (wholes spine l₁ ++ t₁.map r.over) ++
      r.over t :: (t₂.map r.over ++ wholes spine l₂) := by
  simp [wholes, h]

/-- What stands before a reading that is kept. -/
theorem dropRivals_eq_append_cons {readings l₁ l₂ : List Reading} {r : Reading}
    (h : dropRivals readings = l₁ ++ r :: l₂) : ∃ a₁ a₂, readings = a₁ ++ r :: a₂ ∧
      ∀ a ∈ a₁, a.rivals r = false ∧ ∃ d ∈ l₁, d.rivals a = true := by
  induction readings generalizing l₁ l₂ with
  | nil => simp [dropRivals] at h
  | cons x readings ih =>
    rw [dropRivals] at h
    cases l₁ with
    | nil =>
      obtain ⟨rfl, _⟩ := List.cons.inj h
      exact ⟨[], readings, rfl, nofun⟩
    | cons y l₁ =>
      obtain ⟨rfl, hfilter⟩ := List.cons.inj h
      obtain ⟨d₁, rest, hdrop, rfl, hrest⟩ := List.filter_eq_append_iff.1 hfilter
      obtain ⟨d₂, d₃, rfl, hnone, hr, rfl⟩ := List.filter_eq_cons_iff.1 hrest
      obtain ⟨a₁, a₂, rfl, ha⟩ := ih (hdrop.trans (List.append_assoc _ _ _).symm)
      refine ⟨x :: a₁, a₂, rfl, fun a hmem => ?_⟩
      rcases List.mem_cons.1 hmem with rfl | hmem
      · exact ⟨by simpa using hr, a, List.mem_cons_self, Reading.rivals_iff.2 ⟨rfl, rfl⟩⟩
      · obtain ⟨hrival, d, hd, hda⟩ := ha a hmem
        refine ⟨hrival, ?_⟩
        by_cases hx : x.rivals d = true
        · exact ⟨x, List.mem_cons_self, Reading.rivals_trans hx hda⟩
        · refine ⟨d, List.mem_cons_of_mem _ (List.mem_filter.2 ⟨?_, by simpa using hx⟩), hda⟩
          rcases List.mem_append.1 hd with hd | hd
          · exact hd
          · have hdropped := hnone d hd
            simp [hx] at hdropped

/-- What stands before a reading that comes of a front, before any is dropped. -/
theorem alive_eq_append_cons {below : Option Nat} {p : Point} {text : List Glyph}
    {readings a₁ a₂ : List Reading} {e : Reading}
    (h : alive (endingsAt below p text readings) = a₁ ++ e :: a₂) :
    ∃ (l₁ : List Reading) (r : Reading) (l₂ b₁ b₂ : List Reading), readings = l₁ ++ r :: l₂ ∧
      alive (r.endings below p text) = b₁ ++ e :: b₂ ∧
      a₁ = (l₁.flatMap fun r => alive (r.endings below p text)) ++ b₁ := by
  have hflat : (readings.flatMap fun r => alive (r.endings below p text)) = a₁ ++ e :: a₂ := by
    rw [← h, endingsAt_eq, alive, List.filterMap_flatMap]
    rfl
  exact flatMap_eq_append_cons hflat

/-- Where a reading that is kept comes from: all that came before it was kept, or dropped for a rival. -/
theorem exists_origin {below : Option Nat} {p : Point} {text : List Glyph} {spine : List Junction}
    {readings earlier later : List Reading} {r : Reading}
    (h : wholes spine (dropRivals (alive (endingsAt below p text readings))) =
      earlier ++ r :: later) :
    ∃ l₁ u l₂ t₁ t t₂ b₁ e b₂, readings = l₁ ++ u :: l₂ ∧ tails spine = t₁ ++ t :: t₂ ∧
      alive (Reading.endings below p text u) = b₁ ++ e :: b₂ ∧ r = e.over t ∧
      (∀ t' ∈ t₁, e.over t' ∈ earlier) ∧
      ∀ x, (x ∈ b₁ ∨ ∃ v ∈ l₁, x ∈ alive (v.endings below p text)) → x.rivals e = false ∧
        ∀ t' ∈ tails spine, ∃ s ∈ earlier, s.rivals (x.over t') = true := by
  obtain ⟨d₁, e, d₂, t₁, t, t₂, hdrop, htails, rfl, rfl⟩ := wholes_eq_append_cons h
  obtain ⟨a₁, a₂, halive, hkept⟩ := dropRivals_eq_append_cons hdrop
  obtain ⟨l₁, u, l₂, b₁, b₂, hreadings, he, rfl⟩ := alive_eq_append_cons halive
  refine ⟨l₁, u, l₂, t₁, t, t₂, b₁, e, b₂, hreadings, htails, he, rfl, fun t' ht' => ?_,
    fun x hx => ?_⟩
  · exact List.mem_append_right _ (List.mem_map_of_mem ht')
  · obtain ⟨hrival, d, hd, hdx⟩ := hkept x (by
      rcases hx with hx | ⟨v, hv, hx⟩
      · exact List.mem_append_right _ hx
      · exact List.mem_append_left _ (List.mem_flatMap.2 ⟨v, hv, hx⟩))
    refine ⟨hrival, fun t' ht' => ⟨d.over t', ?_, Reading.rivals_over hdx t'⟩⟩
    exact List.mem_append_left _ (mem_wholes.2 ⟨d, hd, t', ht', rfl⟩)

end Numscript.Parser
