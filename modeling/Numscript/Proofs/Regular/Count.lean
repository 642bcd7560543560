import Numscript.Proofs.Regular.Letters

/-!
# How often a letter occurs

Bounds on the number of letters with some property in the words of an expression: at least one in every
word, at most one, or none.
-/
namespace Numscript

namespace Regular

variable {α β : Type} {sat : α → β → Bool} {P : α → Bool} {Q : β → Bool}

/-- Whether every word has a letter with a property. -/
def always (P : α → Bool) : Regular α → Bool
  | .never => true
  | .done | .many _ => false
  | .one a => P a
  | .seq r s => r.always P || s.always P
  | .alt r s => r.always P && s.always P

/-- Whether no letter has a property. -/
def lacks (P : α → Bool) (r : Regular α) : Bool := r.letters.all fun a => !P a

/-- Whether no word has two letters with a property. -/
def atMostOnce (P : α → Bool) : Regular α → Bool
  | .never | .done | .one _ => true
  | .seq r s => r.lacks P && s.atMostOnce P || r.atMostOnce P && s.lacks P
  | .alt r s => r.atMostOnce P && s.atMostOnce P
  | .many r => r.lacks P

theorem exists_of_always (same : ∀ a b, sat a b = true → Q b = P a) {r : Regular α} {w : List β}
    (h : Fits sat r w) (always : r.always P = true) : ∃ b ∈ w, Q b = true := by
  induction h with
  | done => cases always
  | @one a b hab => exact ⟨b, List.mem_singleton_self b, (same a b hab).trans always⟩
  | @seq r s v w _ _ ihr ihs =>
    rcases Bool.or_eq_true_iff.1 always with halways | halways
    · obtain ⟨b, hb, hq⟩ := ihr halways
      exact ⟨b, List.mem_append_left w hb, hq⟩
    · obtain ⟨b, hb, hq⟩ := ihs halways
      exact ⟨b, List.mem_append_right v hb, hq⟩
  | left _ ih => exact ih (Bool.and_eq_true_iff.1 always).1
  | right _ ih => exact ih (Bool.and_eq_true_iff.1 always).2
  | manyNil => cases always
  | manyCons => cases always

theorem filter_of_lacks (same : ∀ a b, sat a b = true → Q b = P a) {r : Regular α} {w : List β}
    (h : Fits sat r w) (lacks : r.lacks P = true) : w.filter Q = [] := by
  refine List.filter_eq_nil_iff.2 fun b hb hq => ?_
  obtain ⟨a, ha, hab⟩ := exists_letter h hb
  have hnot := List.all_eq_true.1 lacks a ha
  rw [← same a b hab, hq] at hnot
  cases hnot

theorem length_filter_le_one (same : ∀ a b, sat a b = true → Q b = P a) {r : Regular α} {w : List β}
    (h : Fits sat r w) (once : r.atMostOnce P = true) : (w.filter Q).length ≤ 1 := by
  induction h with
  | done => exact Nat.zero_le 1
  | one => exact List.length_filter_le _ _
  | seq hr hs ihr ihs =>
    rw [List.filter_append]
    rcases Bool.or_eq_true_iff.1 once with hfirst | hlast
    · obtain ⟨hlacks, honce⟩ := Bool.and_eq_true_iff.1 hfirst
      rw [filter_of_lacks same hr hlacks]
      exact ihs honce
    · obtain ⟨honce, hlacks⟩ := Bool.and_eq_true_iff.1 hlast
      rw [filter_of_lacks same hs hlacks, List.append_nil]
      exact ihr honce
  | left _ ih => exact ih (Bool.and_eq_true_iff.1 once).1
  | right _ ih => exact ih (Bool.and_eq_true_iff.1 once).2
  | manyNil => exact Nat.zero_le 1
  | @manyCons r v w hr hs _ _ =>
    have hmany : (Regular.many r).lacks P = true := once
    rw [filter_of_lacks same (.manyCons hr hs) hmany]
    exact Nat.zero_le 1

end Regular
end Numscript
