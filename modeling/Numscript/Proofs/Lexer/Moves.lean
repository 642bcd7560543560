import Numscript.Proofs.Lexer.Munch

/-!
# Moves of the lexer

A run of the lexer taken one move at a time. A move passes over white space, or follows a class that
covers the next code point. At the end of the text the lexer sees the code point zero, and a move there
passes over nothing; so a state with a move on zero could go on forever. There is none, and every run is
over when the text is, at the latest one move behind its end.
-/
namespace Numscript.Lexer

/-- One move of a run: from a state before some text to a state before the rest of it. -/
inductive Move : Nat → List Glyph → Nat → List Glyph → Prop where
  | skip {q : Nat} {g : Glyph} {rest : List Glyph} (skips : (state q).skips = true)
      (blank : g.isBlank = true) : Move q (g :: rest) q rest
  | advance {q r code : Nat} {rest : List Glyph}
      (kept : ((state q).skips && (Glyph.char code).isBlank) = false)
      (leads : (state q).next? code = some r) : Move q (.char code :: rest) r rest
  /-- The end of the text is a token of its own. -/
  | finish {q : Nat} (ends : (state q).ends = true) : Move q [] ending []
  /-- A move at the end of the text, which passes over nothing. -/
  | beyond {q r : Nat} (inside : (state q).ends = false) (leads : (state q).next? 0 = some r) :
      Move q [] r []

/-- A number of moves in a row. -/
inductive Moves : Nat → Nat → List Glyph → Nat → List Glyph → Prop where
  | refl (q : Nat) (text : List Glyph) : Moves 0 q text q text
  | step {n q r u : Nat} {text rest left : List Glyph} (first : Move q text r rest)
      (more : Moves n r rest u left) : Moves (n + 1) q text u left

/-- A state before a text from which no move leads on. -/
def Halted (q : Nat) (text : List Glyph) : Prop := ∀ r rest, ¬ Move q text r rest

theorem next?_zero_of_mem : ∀ page ∈ pages, ∀ s ∈ page, s.next? 0 = none := by
  decide +kernel

theorem next?_zero (q : Nat) : (state q).next? 0 = none := by
  unfold state
  cases hs : (pages[q / 64]?).bind (·[q % 64]?) with
  | none => rfl
  | some s =>
    obtain ⟨page, hpage, hmem⟩ := Option.bind_eq_some_iff.1 hs
    exact next?_zero_of_mem page (List.mem_of_getElem? hpage) s (List.mem_of_getElem? hmem)

theorem halted_ending : Halted ending [] := by
  intro r rest h
  cases h with
  | finish ends => cases ends
  | beyond _ leads =>
    rw [next?_zero] at leads
    cases leads

theorem Moves.length_le {n q r : Nat} {text rest : List Glyph} (h : Moves n q text r rest) :
    n ≤ text.length + 1 := by
  induction h with
  | refl => exact Nat.zero_le _
  | @step n q r u text rest left first more ih =>
    cases first with
    | skip => exact Nat.succ_le_succ ih
    | advance => exact Nat.succ_le_succ ih
    | finish =>
      cases more with
      | refl => exact Nat.le_refl _
      | step again _ => exact absurd again (halted_ending _ _)
    | beyond _ leads =>
      rw [next?_zero] at leads
      cases leads

/-- A run of the lexer makes moves until none is left, and stops where they have led. -/
theorem exists_moves_scanFrom (q start here : Nat) (found : Option (Terminal × Nat))
    (text : List Glyph) : ∃ n r rest, Moves n q text r rest ∧ Halted r rest ∧
      (scanFrom q start here found text).stop + rest.length = here + text.length := by
  induction text generalizing q start here found with
  | nil =>
    cases hends : (state q).ends with
    | true => exact ⟨1, ending, [], .step (.finish hends) (.refl _ _), halted_ending, rfl⟩
    | false =>
      refine ⟨0, q, [], .refl _ _, fun r rest h => ?_, rfl⟩
      cases h with
      | finish ends => rw [hends] at ends; cases ends
      | beyond _ leads => rw [next?_zero] at leads; cases leads
  | cons g text ih =>
    rw [scanFrom.eq_def]
    simp only
    split
    · next hskip =>
      obtain ⟨hskips, hblank⟩ := Bool.and_eq_true_iff.1 hskip
      obtain ⟨n, r, rest, hmoves, hhalted, hstop⟩ := ih q (here + 1) (here + 1) found
      refine ⟨n + 1, r, rest, .step (.skip hskips hblank) hmoves, hhalted, ?_⟩
      rw [hstop, List.length_cons]
      omega
    · next hkept =>
      have hkept : ((state q).skips && g.isBlank) = false := by simpa using hkept
      cases g with
      | stray =>
        refine ⟨0, q, _, .refl _ _, fun r rest h => ?_, by simp⟩
        cases h with
        | skip _ blank => cases blank
      | char code =>
        cases hnext : (state q).next? code with
        | none =>
          refine ⟨0, q, _, .refl _ _, fun r rest h => ?_, by simp [hnext]⟩
          cases h with
          | skip skips blank => simp [skips, blank] at hkept
          | advance _ leads => rw [hnext] at leads; cases leads
        | some r =>
          obtain ⟨n, u, rest, hmoves, hhalted, hstop⟩ :=
            ih r start (here + 1) ((state q).recognise here found)
          refine ⟨n + 1, u, rest, .step (.advance hkept hnext) hmoves, hhalted, ?_⟩
          simp only [hnext]
          rw [hstop, List.length_cons]
          omega

end Numscript.Lexer
