import Mathlib.Data.List.Basic
import Mathlib.Data.List.Find
import Numscript.Proofs.Lexer.Residue

/-!
# The longest match

A run of the lexer in a mode passes over white space and then finds the longest text that is a lexeme
of a token the mode expects, and among the tokens with that lexeme the one with the least number. This
is read off the residues of the states: `longest` follows the residue instead of the automaton.
-/
namespace Numscript.Lexer

open Grammar (satisfies IsLexeme lexeme)

theorem state_of_le {q : Nat} (h : stateCount ≤ q) : state q = .inside [] := by
  have hnone : (pages[q / 64]?).bind (·[q % 64]?) = none := by
    unfold stateCount at h
    by_cases hq : q / 64 = 5
    · have hpage : pages[5]? = some page5 := rfl
      have hlength : page5.length = 12 := rfl
      rw [hq, hpage, Option.bind_some, List.getElem?_eq_none_iff]
      omega
    · have hlength : pages.length = 6 := rfl
      rw [List.getElem?_eq_none (by omega), Option.bind_none]
  rw [state, hnone, Option.getD_none]

theorem residue_of_le {q : Nat} (h : stateCount ≤ q) : residue q = [] := by
  have hnone : (access[q / 64]?).bind (·[q % 64]?) = none := by
    unfold stateCount at h
    by_cases hq : q / 64 = 5
    · have hlength : ∀ row ∈ access[5]?, row.length = 12 := by decide +kernel
      cases hrow : access[5]? with
      | none => simp [hq, hrow]
      | some row =>
        rw [hq, hrow, Option.bind_some, List.getElem?_eq_none_iff, hlength row hrow]
        omega
    · have hlength : access.length = 6 := rfl
      rw [List.getElem?_eq_none (by omega), Option.bind_none]
  rw [residue, hnone]

theorem agrees_of_ne {q : Nat} (h : q ≠ ending) : agrees q = true := by
  by_cases hq : q < stateCount
  · refine agrees_of_mem q ?_
    unfold stateCount at hq
    unfold ending at h
    simp only [List.mem_cons, List.mem_range'_1]
    omega
  · have hle : stateCount ≤ q := Nat.le_of_not_lt hq
    rw [agrees, state_of_le hle, residue_of_le hle]
    rfl

theorem State.next?_congr {s : State} {c d : Nat}
    (h : ∀ cls ∈ s.moves.map (·.1), cls.covers c = cls.covers d) : s.next? c = s.next? d := by
  unfold next?
  congr 1
  refine List.find?_congr fun m hm => ?_
  exact h m.1 (List.mem_map.2 ⟨m, hm, rfl⟩)

namespace Residue

theorem after_congr {v : Residue} {c d : Nat}
    (h : ∀ cls ∈ v.classes, cls.covers c = cls.covers d) :
    v.after (.char c) = v.after (.char d) := by
  unfold after
  congr 1
  refine List.map_congr_left fun e he => ?_
  have hpartials : e.2.flatMap (·.partials satisfies (.char c)) =
      e.2.flatMap (·.partials satisfies (.char d)) := by
    refine List.flatMap_congr fun r hr => ?_
    refine Regular.partials_congr fun cls hcls => ?_
    exact h cls (List.mem_flatMap.2 ⟨e, he, List.mem_flatMap.2 ⟨r, hr, hcls⟩⟩)
  rw [hpartials]

theorem after_stray (v : Residue) : v.after .stray = [] := by
  have hnone : ∀ r : Regular CharClass, r.partials satisfies .stray = [] := by
    intro r
    induction r with
    | never | done => rfl
    | one a => rfl
    | seq r s ihr ihs => simp [Regular.partials, ihr, ihs]
    | alt r s ihr ihs => simp [Regular.partials, ihr, ihs]
    | many r ih => simp [Regular.partials, ih]
  have hempty : ∀ rs : List (Regular CharClass),
      rs.flatMap (·.partials satisfies .stray) = [] := fun rs =>
    List.flatMap_eq_nil_iff.2 fun r _ => hnone r
  simp only [after, hempty, List.eraseDups_nil]
  rw [List.filter_eq_nil_iff]
  intro e he
  obtain ⟨_, _, rfl⟩ := List.mem_map.1 he
  simp

/-- A word completes a token. -/
def Fits (v : Residue) (t : Terminal) (w : List Glyph) : Prop :=
  ∃ e ∈ v, e.1 = t ∧ ∃ r ∈ e.2, r.Fits satisfies w

theorem fits_after_iff {v : Residue} {g : Glyph} {t : Terminal} {w : List Glyph} :
    (v.after g).Fits t w ↔ v.Fits t (g :: w) := by
  constructor
  · rintro ⟨e, he, rfl, s, hs, hfits⟩
    obtain ⟨d, hd, rfl⟩ := List.mem_map.1 (List.mem_of_mem_filter he)
    obtain ⟨r, hr, hpartial⟩ := List.mem_flatMap.1 (List.mem_eraseDups.1 hs)
    exact ⟨d, hd, rfl, r, hr, Regular.fits_cons_iff_partials.2 ⟨s, hpartial, hfits⟩⟩
  · rintro ⟨e, he, rfl, r, hr, hfits⟩
    obtain ⟨s, hpartial, hs⟩ := Regular.fits_cons_iff_partials.1 hfits
    have hmem : s ∈ (e.2.flatMap (·.partials satisfies g)).eraseDups :=
      List.mem_eraseDups.2 (List.mem_flatMap.2 ⟨r, hr, hpartial⟩)
    refine ⟨_, List.mem_filter.2 ⟨List.mem_map.2 ⟨e, he, rfl⟩, ?_⟩, rfl, s, hmem, hs⟩
    simpa using List.ne_nil_of_mem hmem

/-- The tokens of a residue stand in the order of their numbers. -/
def Ordered (v : Residue) : Prop := v.Pairwise fun d e => d.1.index < e.1.index

theorem Ordered.after {v : Residue} (h : v.Ordered) (g : Glyph) : (v.after g).Ordered := by
  refine List.Pairwise.filter _ ?_
  exact List.pairwise_map.2 h

theorem Fits.of_found? {v : Residue} {t : Terminal} (h : v.found? = some t) : v.Fits t [] := by
  obtain ⟨e, hfind, rfl⟩ := Option.map_eq_some_iff.1 h
  have hany : e.2.any (·.nullable) = true := by simpa using List.find?_some hfind
  obtain ⟨r, hr, hnull⟩ := List.any_eq_true.1 hany
  exact ⟨e, List.mem_of_find?_eq_some hfind, rfl, r, hr, (Regular.fits_nil_iff r).2 hnull⟩

theorem found?_eq_none {v : Residue} {t : Terminal} (h : v.found? = none) : ¬ v.Fits t [] := by
  rintro ⟨e, he, rfl, r, hr, hfits⟩
  have hnone := List.find?_eq_none.1 (Option.map_eq_none_iff.1 h) e he
  exact hnone (List.any_eq_true.2 ⟨r, hr, (Regular.fits_nil_iff r).1 hfits⟩)

theorem Ordered.index_le {v : Residue} (hv : v.Ordered) {t t' : Terminal}
    (h : v.found? = some t) (h' : v.Fits t' []) : t.index ≤ t'.index := by
  obtain ⟨e, hfind, rfl⟩ := Option.map_eq_some_iff.1 h
  obtain ⟨d, hd, rfl, r, hr, hfits⟩ := h'
  obtain ⟨_, before, behind, rfl, hbefore⟩ := List.find?_eq_some_iff_append.1 hfind
  rcases List.mem_append.1 hd with hd | hd
  · have hnot := hbefore d hd
    have hany : d.2.any (·.nullable) = true :=
      List.any_eq_true.2 ⟨r, hr, (Regular.fits_nil_iff r).1 hfits⟩
    simp [hany] at hnot
  · rcases List.mem_cons.1 hd with rfl | hd
    · exact Nat.le_refl _
    · have hpair := (List.pairwise_append.1 hv).2.1
      exact Nat.le_of_lt ((List.pairwise_cons.1 hpair).1 d hd)

/-- The longest text that completes a token: the token, and the number of its glyphs. -/
def longest (v : Residue) : List Glyph → Option (Terminal × Nat)
  | [] => v.found?.map (·, 0)
  | g :: rest =>
    (((v.after g).longest rest).map fun f => (f.1, f.2 + 1)).or (v.found?.map (·, 0))

@[simp] theorem longest_nil (text : List Glyph) : longest [] text = none := by
  induction text with
  | nil => rfl
  | cons g rest ih =>
    have hafter : after g [] = [] := rfl
    rw [longest, hafter, ih]
    rfl

end Residue

/-- On any code point, not only at the cuts, a state moves as its residue says. -/
theorem move_agrees {q : Nat} (hq : q ≠ ending) (code : Nat) :
    (match (state q).next? code with
      | some r => r != ending && !(state r).skips && !(state r).ends &&
        residue r = (residue q).after (.char code)
      | none => ((residue q).after (.char code)).isEmpty) = true := by
  have hagrees := agrees_of_ne hq
  rw [agrees, Bool.and_eq_true, List.all_eq_true] at hagrees
  obtain ⟨c, hc, hcovers⟩ :=
    exists_cut ((state q).moves.map (·.1) ++ (residue q).classes) code
  have hmove := hagrees.2 c hc
  rwa [← State.next?_congr fun cls hcls => hcovers cls (List.mem_append_left _ hcls),
    ← Residue.after_congr fun cls hcls => hcovers cls (List.mem_append_right _ hcls)] at hmove

theorem next?_eq_some {q r code : Nat} (hq : q ≠ ending) (h : (state q).next? code = some r) :
    r ≠ ending ∧ (state r).skips = false ∧ (state r).ends = false ∧
      residue r = (residue q).after (.char code) := by
  have hmove := move_agrees hq code
  rw [h] at hmove
  simpa [and_assoc] using hmove

theorem next?_eq_none {q code : Nat} (hq : q ≠ ending) (h : (state q).next? code = none) :
    (residue q).after (.char code) = [] := by
  have hmove := move_agrees hq code
  rw [h] at hmove
  exact List.isEmpty_iff.1 hmove

theorem accepts_eq {q : Nat} (hq : q ≠ ending) : (state q).accepts = (residue q).found? := by
  have hagrees := agrees_of_ne hq
  rw [agrees, Bool.and_eq_true] at hagrees
  exact of_decide_eq_true hagrees.1

namespace Residue

/--
A text begins with a word that completes a token, with no longer word that completes any, and with
no token of a lower number that it completes.
-/
structure Munch (v : Residue) (text : List Glyph) (t : Terminal) (w rest : List Glyph) : Prop where
  split : text = w ++ rest
  fits : v.Fits t w
  isLongest : ∀ t' w' rest', text = w' ++ rest' → v.Fits t' w' → w'.length ≤ w.length
  isLeast : ∀ t', v.Fits t' w → t.index ≤ t'.index

theorem Munch.of_found? {v : Residue} (hv : v.Ordered) {t : Terminal} {text : List Glyph}
    (h : v.found? = some t)
    (hnone : ∀ t' g w' rest', text = g :: w' ++ rest' → ¬ v.Fits t' (g :: w')) :
    v.Munch text t [] text where
  split := rfl
  fits := .of_found? h
  isLongest t' w' rest' hsplit hfits := by
    cases w' with
    | nil => exact Nat.le_refl _
    | cons g w' => exact absurd hfits (hnone t' g w' rest' hsplit)
  isLeast _ hfits := hv.index_le h hfits

theorem Munch.cons {v : Residue} {text : List Glyph} {t : Terminal} {g : Glyph}
    {w rest : List Glyph} (h : (v.after g).Munch text t w rest) :
    v.Munch (g :: text) t (g :: w) rest where
  split := by rw [h.split, List.cons_append]
  fits := fits_after_iff.1 h.fits
  isLongest t' w' rest' hsplit hfits := by
    cases w' with
    | nil => exact Nat.zero_le _
    | cons g' w' =>
      obtain ⟨rfl, htext⟩ := List.cons.inj hsplit
      exact Nat.succ_le_succ (h.isLongest t' w' rest' htext (fits_after_iff.2 hfits))
  isLeast t' hfits := h.isLeast t' (fits_after_iff.2 hfits)

/-- Where no longer word completes a token, the longest match is the one that the residue has completed. -/
theorem found?_spec {v : Residue} (hv : v.Ordered) {text : List Glyph}
    (hnone : ∀ t g w rest, text = g :: w ++ rest → ¬ v.Fits t (g :: w)) :
    (∀ t n, v.found?.map (·, 0) = some (t, n) →
      ∃ w rest, w.length = n ∧ v.Munch text t w rest) ∧
    (v.found?.map (·, 0) = none → ∀ t w rest, text = w ++ rest → ¬ v.Fits t w) := by
  constructor
  · intro t n h
    obtain ⟨t', ht', hpair⟩ := Option.map_eq_some_iff.1 h
    obtain ⟨rfl, rfl⟩ := Prod.mk.inj hpair
    exact ⟨[], text, rfl, .of_found? hv ht' hnone⟩
  · intro h t w rest hsplit
    cases w with
    | nil => exact found?_eq_none (Option.map_eq_none_iff.1 h)
    | cons g w => exact hnone t g w rest hsplit

/-- The longest match of a residue is found, and where there is none, no word completes a token. -/
theorem longest_spec {v : Residue} (hv : v.Ordered) (text : List Glyph) :
    (∀ t n, v.longest text = some (t, n) →
      ∃ w rest, w.length = n ∧ v.Munch text t w rest) ∧
    (v.longest text = none → ∀ t w rest, text = w ++ rest → ¬ v.Fits t w) := by
  induction text generalizing v with
  | nil => exact found?_spec hv fun t g w rest hsplit => by cases hsplit
  | cons g text ih =>
    obtain ⟨ihsome, ihnone⟩ := ih (hv.after g)
    rw [longest]
    cases hafter : (v.after g).longest text with
    | some f =>
      refine ⟨fun t n h => ?_, fun h => by cases h⟩
      obtain ⟨rfl, rfl⟩ := Prod.mk.inj (Option.some.inj h)
      obtain ⟨w, rest, hw, hmunch⟩ := ihsome f.1 f.2 hafter
      exact ⟨g :: w, rest, by rw [List.length_cons, hw], hmunch.cons⟩
    | none =>
      refine found?_spec hv fun t g' w rest hsplit hfits => ?_
      obtain ⟨rfl, htext⟩ := List.cons.inj hsplit
      exact ihnone hafter t w rest htext (fits_after_iff.2 hfits)

end Residue

/-- Inside a token a run finds what its residue finds, or what was found before. -/
theorem scanFrom_eq {q : Nat} (hq : q ≠ ending) (hskips : (state q).skips = false)
    (hends : (state q).ends = false) (start here : Nat) (found : Option (Terminal × Nat))
    (text : List Glyph) : (scanFrom q start here found text).start = start ∧
      (scanFrom q start here found text).found =
        (((residue q).longest text).map fun f => (f.1, here + f.2)).or found := by
  have hrecognise : (state q).recognise here found =
      ((residue q).found?.map fun t => (t, here)).or found := by
    rw [State.recognise, accepts_eq hq]
    cases (residue q).found? <;> rfl
  induction text generalizing q here found with
  | nil =>
    simp only [scanFrom, hends, hrecognise, Residue.longest]
    cases (residue q).found? <;> simp
  | cons g rest ih =>
    cases g with
    | stray =>
      simp only [scanFrom, hskips, hrecognise, Residue.longest, Residue.after_stray]
      cases (residue q).found? <;> simp
    | char code =>
      cases hmove : (state q).next? code with
      | none =>
        simp only [scanFrom, hskips, hrecognise, Residue.longest, next?_eq_none hq hmove, hmove]
        cases (residue q).found? <;> simp
      | some r =>
        obtain ⟨hr, hrskips, hrends, hresidue⟩ := next?_eq_some hq hmove
        have hrec : (state r).recognise (here + 1) ((state q).recognise here found) =
            ((residue r).found?.map fun t => (t, here + 1)).or
              ((state q).recognise here found) := by
          rw [State.recognise, accepts_eq hr]
          cases (residue r).found? <;> rfl
        have hrun := ih hr hrskips hrends (here + 1) ((state q).recognise here found) hrec
        simp only [scanFrom, hskips, Bool.false_and, hmove]
        refine ⟨hrun.1, ?_⟩
        have hfound := hrun.2
        simp only [Bool.false_eq_true, if_false]
        rw [hfound, hrecognise, Residue.longest, ← hresidue]
        cases (residue r).longest rest <;> cases (residue q).found? <;> simp <;> omega

end Numscript.Lexer
