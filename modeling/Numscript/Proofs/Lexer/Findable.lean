import Numscript.Proofs.Lexer.Own

/-!
# What a mode can find

The tokens that can be found on the way from a mode are the ones that the mode expects. Every move of a
state is taken on some code point, so what is found at the end of any way is a token of the residue there,
and that was in the residue of the mode. The other way round, each token that a mode expects has a lexeme
that is no lexeme of an earlier one, and the mode moves along it.
-/
namespace Numscript.Lexer

/-- A run that starts in one state can come to another. -/
inductive Reachable (q : Nat) : Nat → Prop where
  | refl : Reachable q q
  | move {r s : Nat} {cls : CharClass} (h : Reachable q r) (m : (cls, s) ∈ (state r).moves) :
      Reachable q s

/-- A run that starts in a state can find a token. -/
def CanFind (q : Nat) (t : Terminal) : Prop :=
  ∃ r, Reachable q r ∧
    ((state r).accepts = some t ∨ ((state r).ends = true ∧ t = .endOfText))

/-- Every move of a state is taken on one of the code points at its cuts. -/
def movesTaken (q : Nat) : Bool :=
  (state q).moves.all fun m =>
    (cuts ((state q).moves.map (·.1))).any fun code => (state q).next? code = some m.2

theorem movesTaken_of_mem : ∀ q ∈ List.range stateCount, movesTaken q = true := by
  decide +kernel

theorem exists_code {q r : Nat} {cls : CharClass} (h : (cls, r) ∈ (state q).moves) :
    ∃ code, (state q).next? code = some r := by
  by_cases hq : q < stateCount
  · have htaken := List.all_eq_true.1 (movesTaken_of_mem q (List.mem_range.2 hq)) _ h
    obtain ⟨code, _, hcode⟩ := List.any_eq_true.1 htaken
    exact ⟨code, of_decide_eq_true hcode⟩
  · rw [state_of_le (Nat.le_of_not_lt hq)] at h
    cases h

/-- What a residue completes behind a glyph, it completes with a word that begins with it. -/
theorem Reachable.completes {mode r : Nat} (hmode : IsMode mode) (h : Reachable mode r) :
    r ≠ ending ∧ ∀ t w, (residue r).Fits t w → t ∈ expected mode := by
  induction h with
  | refl =>
    obtain ⟨hne, _, hresidue⟩ := hmode.spec
    refine ⟨hne, fun t w hfits => ?_⟩
    rw [hresidue] at hfits
    exact (fits_initial_iff.1 hfits).1
  | move _ m ih =>
    obtain ⟨hne, hexpected⟩ := ih
    obtain ⟨code, hcode⟩ := exists_code m
    obtain ⟨hnext, _, _, hresidue⟩ := next?_eq_some hne hcode
    refine ⟨hnext, fun t w hfits => ?_⟩
    rw [hresidue] at hfits
    exact hexpected t _ (Residue.fits_after_iff.1 hfits)

theorem Reachable.eq_of_ends {mode r : Nat} (hmode : IsMode mode) (h : Reachable mode r)
    (ends : (state r).ends = true) : r = mode := by
  cases h with
  | refl => rfl
  | move h m =>
    obtain ⟨code, hcode⟩ := exists_code m
    obtain ⟨_, _, hends, _⟩ := next?_eq_some (h.completes hmode).1 hcode
    rw [ends] at hends
    cases hends

/-- A lexeme of a token that is no lexeme of a token with a lower number. -/
def sample : Terminal → String
  | .lineComment => "//"
  | .multilineComment => "/**/"
  | .variableName => "$a"
  | .identifier => "a"
  | .number => "0"
  | .asset => "A"
  | .percentagePortion => "0%"
  | .string => "\"\""
  | .accountText => "_"
  | t => (Grammar.spelling? t).getD ""

/-- Where a state moves along a word. -/
def travel (q : Nat) : List Char → Option Nat
  | [] => some q
  | c :: w => ((state q).next? c.toNat).bind fun r => travel r w

theorem Reachable.travel {mode q r : Nat} {w : List Char} (h : Reachable mode q)
    (hw : Lexer.travel q w = some r) : Reachable mode r := by
  induction w generalizing q with
  | nil =>
    obtain rfl := Option.some.inj hw
    exact h
  | cons c w ih =>
    obtain ⟨s, hs, hrest⟩ := Option.bind_eq_some_iff.1 hw
    obtain ⟨m, hm, rfl⟩ := Option.map_eq_some_iff.1 hs
    exact ih (h.move (List.mem_of_find?_eq_some hm)) hrest

theorem travel_sample : ∀ mode ∈ List.range stateCount, (state mode).skips = true →
    ∀ t ∈ expected mode,
      ((travel mode (sample t).toList).bind fun r => (state r).accepts) = some t := by
  decide +kernel

theorem isMode_of_mode? {q mode : Nat} (h : Automaton.mode? q = some mode) : IsMode mode := by
  obtain ⟨s, hs, rfl⟩ := Option.map_eq_some_iff.1 h
  obtain ⟨page, hpage, hmem⟩ := Automaton.mem_pages_of_state? hs
  exact isMode_of_mem page hpage s hmem

theorem IsMode.lt_stateCount {mode : Nat} (h : IsMode mode) : mode < stateCount := by
  by_contra hle
  rw [IsMode, state_of_le (Nat.le_of_not_lt hle)] at h
  cases h

theorem canFind_iff {mode : Nat} (hmode : IsMode mode) {t : Terminal} :
    CanFind mode t ↔ t ∈ expected mode ∨ ((state mode).ends = true ∧ t = .endOfText) := by
  constructor
  · rintro ⟨r, hr, haccepts | ⟨hends, rfl⟩⟩
    · obtain ⟨hne, hexpected⟩ := hr.completes hmode
      rw [accepts_eq hne] at haccepts
      exact .inl (hexpected t [] (.of_found? haccepts))
    · rw [hr.eq_of_ends hmode hends] at hends
      exact .inr ⟨hends, rfl⟩
  · rintro (ht | ht)
    · obtain ⟨r, hr, haccepts⟩ := Option.bind_eq_some_iff.1
        (travel_sample mode (List.mem_range.2 hmode.lt_stateCount) hmode t ht)
      exact ⟨r, .travel .refl hr, .inl haccepts⟩
    · exact ⟨mode, .refl, .inr ht⟩

theorem canFind_endOfText_iff {mode : Nat} (hmode : IsMode mode) :
    CanFind mode .endOfText ↔ (state mode).ends = true := by
  rw [canFind_iff hmode]
  refine ⟨fun h => h.elim (fun ht => ?_) (·.1), fun h => .inr ⟨h, rfl⟩⟩
  have haccepts := travel_sample mode (List.mem_range.2 hmode.lt_stateCount) hmode _ ht
  have htravel : travel mode (sample .endOfText).toList = some mode := rfl
  rw [htravel, Option.bind_some, hmode.spec.2.1] at haccepts
  cases haccepts

end Numscript.Lexer
