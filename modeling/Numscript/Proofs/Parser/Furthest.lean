import Numscript.Proofs.Parser.Run
import Numscript.Proofs.Parser.Sweep

/-!
# The furthest place

Where a text is no program, the sweep answers with a place that some run has come to and that no run gets past.
-/
namespace Numscript.Parser

/-- A place that some run comes to, and no run gets past. -/
structure Furthest (text : List Glyph) (p : Point) : Prop where
  reached : ∃ r, Reaches text r ∧ r.point = p
  last : ∀ r, Reaches text r → r.point.byte ≤ p.byte

/-- No run gets past a place behind which the frontier is empty. -/
theorem last_of_frontier {text before rest : List Glyph} (split : text = before ++ rest)
    (empty : ∀ g more, rest = g :: more → ∀ r, ¬Frontier text (before ++ [g]) r) {r : Reading}
    (h : Reaches text r) : r.point.byte ≤ (Point.origin.behind before).byte := by
  obtain ⟨before', rest', split', place, hr⟩ := frontier_of_reaches h
  rw [place, Point.origin_behind_byte, Point.origin_behind_byte]
  rcases List.append_eq_append_iff.1 (split.symm.trans split') with ⟨middle, rfl, hrest⟩ | ⟨middle, rfl, _⟩
  · cases middle with
    | nil => rw [List.append_nil]
    | cons g middle =>
      rw [List.append_cons] at hr
      obtain ⟨r', hancestor⟩ := hr.ancestor
      exact absurd hancestor (empty g _ hrest r')
  · rw [Glyph.totalSize_append]
    omega

theorem Front.exists_whole {front : Front} {r : Reading} (hr : r ∈ front.readings) :
    ∃ x ∈ front.wholes, x.point = r.point := by
  obtain ⟨t, ht⟩ := List.exists_mem_of_ne_nil _ (tails_ne_nil front.spine)
  exact ⟨r.over t, mem_wholes.2 ⟨r, hr, t, ht, rfl⟩, rfl⟩

/-- Where a sweep finds no program, it answers with the furthest place. -/
theorem Sweeps.furthest {text before rest : List Glyph} {front : Front} {result : Result}
    (h : Sweeps before front rest result) (split : text = before ++ rest)
    (sound : front.Sound text before) (covers : front.Covers text before)
    (inhabited : front.readings ≠ []) {p : Point} (invalid : result = .invalid p) :
    Furthest text p := by
  induction h with
  | accepts => cases invalid
  | @ends before front next =>
    obtain rfl := Result.invalid.inj invalid
    obtain ⟨r, hr⟩ := List.exists_mem_of_ne_nil _ inhabited
    obtain ⟨x, hx, _⟩ := Front.exists_whole hr
    obtain ⟨middle, behind, hmiddle, hplace⟩ := (sound x hx).place
    have hnil : middle = [] := by
      rw [split, List.append_nil, List.append_assoc, List.self_eq_append_right] at hmiddle
      exact (List.append_eq_nil_iff.1 hmiddle).1
    rw [hnil, List.append_nil] at hplace
    exact ⟨⟨x, (sound x hx).reaches, hplace⟩, fun _ => last_of_frontier split (by rintro _ _ ⟨⟩)⟩
  | @fails before rest g front next stands advances empty =>
    obtain rfl := Result.invalid.inj invalid
    obtain ⟨r, hr, hpoint⟩ := List.any_eq_true.1 stands
    obtain ⟨x, hx, hplace⟩ := Front.exists_whole hr
    refine ⟨⟨x, (sound x hx).reaches, hplace.trans (of_decide_eq_true hpoint)⟩, fun _ =>
      last_of_frontier split fun g' more hrest r hr => ?_⟩
    obtain rfl := (List.cons.inj hrest).1
    obtain ⟨y, hy, _⟩ := covers.advance sound split advances r hr
    obtain ⟨b, hb, _⟩ := mem_wholes.1 hy
    rw [empty] at hb
    cases hb
  | reads advances some_ _ ih =>
    exact ih (by simpa using split) (sound.advance split advances)
      (covers.advance sound split advances) some_ invalid
  | passes nobody _ ih =>
    exact ih (by simpa using split) (sound.keep split nobody) (covers.keep nobody) inhabited invalid

theorem furthest_of_parse {text : List Glyph} {p : Point} (h : parse text = .invalid p) : Furthest text p :=
  (sweeps_of_parse h).furthest (List.nil_append text).symm (Front.initial_sound text)
    (Front.initial_covers text) (by simp [Front.initial]) rfl

end Numscript.Parser
