import Numscript.Proofs.Text.Bytes
import Numscript.Text.Sight

/-!
# What is seen of a text

Two texts are read alike as far as the bytes agree that are looked at. The glyphs of one of them that were told
without a look at the end of the text, or at a byte where the other one differs, are the first glyphs of both.
-/
namespace Numscript.Glyph

theorem exists_cons_of_take {bytes rest : List UInt8} {b : UInt8} {n : Nat} (hn : 1 ≤ n)
    (h : bytes.take n = (b :: rest).take n) :
    ∃ more, bytes = b :: more ∧ more.take (n - 1) = rest.take (n - 1) := by
  obtain ⟨n, rfl⟩ := Nat.exists_eq_add_of_le' hn
  cases bytes with
  | nil => cases h
  | cons c more =>
    obtain ⟨rfl, hmore⟩ := List.cons.inj h
    exact ⟨more, rfl, hmore⟩

theorem front?_of_not_opens {b c : UInt8} {rest : List UInt8} (low : 0xE0 ≤ b.toNat)
    (h : opens b c = false) : front? b (c :: rest) = none := by
  rw [Option.eq_none_iff_forall_ne_some]
  rintro ⟨code, more⟩ hfront
  cases sequence_of_front? hfront with
  | one high => omega
  | two _ high => omega
  | three _ high hc hd hcode valid =>
    obtain ⟨_, hy⟩ := payload?_eq_some hd
    simp only [opens, hc, high, if_true, Bool.and_eq_false_imp, decide_eq_true_eq,
      Bool.not_eq_false', Bool.and_eq_true] at h
    omega
  | four low hlow hc hd he hcode valid =>
    obtain ⟨_, hy⟩ := payload?_eq_some hd
    obtain ⟨_, hz⟩ := payload?_eq_some he
    simp only [opens, hc, Nat.not_lt.2 low, if_false, Bool.and_eq_false_imp, decide_eq_true_eq,
      decide_eq_false_iff_not] at h
    omega

theorem front?_of_not_payload {b c d : UInt8} {rest : List UInt8} (low : 0xF0 ≤ b.toNat)
    (h : payload? d = none) : front? b (c :: d :: rest) = none := by
  rw [Option.eq_none_iff_forall_ne_some]
  rintro ⟨code, more⟩ hfront
  cases sequence_of_front? hfront with
  | one high => omega
  | two _ high => omega
  | three _ high => omega
  | four _ _ _ hd => cases h.symm.trans hd

/-- The bytes that are looked at tell whether a sequence begins with a byte, and which. -/
theorem front?_congr {b : UInt8} {rest rest' : List UInt8} {n : Nat} (within : peek b rest ≤ n + 1)
    (inside : peek b rest ≤ rest.length + 1) (same : rest'.take n = rest.take n) :
    front? b rest' = front? b rest := by
  revert within inside same
  fun_cases peek b rest <;> intro within inside same
  case case1 hone =>
    rw [front?.eq_def, front?.eq_def]
    repeat' split
    all_goals first | rfl | omega
  case case2 hone htwo =>
    obtain ⟨c, rest, rfl⟩ := List.exists_cons_of_length_pos (l := rest) (by omega)
    obtain ⟨rest', rfl, -⟩ := exists_cons_of_take (by omega) same
    rw [front?.eq_def, front?.eq_def]
    simp only [htwo, if_true]
  case case3 => cases Nat.le_of_succ_le_succ inside
  case case4 hone htwo c rest hopens =>
    obtain ⟨rest', rfl, -⟩ := exists_cons_of_take (by omega) same
    have hopens : opens b c = false := by simpa using hopens
    rw [front?_of_not_opens (by omega) hopens, front?_of_not_opens (by omega) hopens]
  case case5 hone htwo c rest hopens hthree =>
    obtain ⟨d, rest, rfl⟩ := List.exists_cons_of_length_pos (l := rest) (by
      rw [List.length_cons] at inside
      omega)
    obtain ⟨more, rfl, hmore⟩ := exists_cons_of_take (by omega) same
    obtain ⟨rest', rfl, -⟩ := exists_cons_of_take (by omega) hmore
    rw [front?.eq_def, front?.eq_def]
    simp only [hthree, if_true]
  case case6 => cases Nat.le_of_succ_le_succ (Nat.le_of_succ_le_succ inside)
  case case7 hone htwo c hopens hthree d rest hnone =>
    obtain ⟨more, rfl, hmore⟩ := exists_cons_of_take (by omega) same
    obtain ⟨rest', rfl, -⟩ := exists_cons_of_take (by omega) hmore
    have hnone : payload? d = none := Option.isNone_iff_eq_none.1 hnone
    rw [front?_of_not_payload (by omega) hnone, front?_of_not_payload (by omega) hnone]
  case case8 hone htwo c hopens hthree d rest hsome =>
    obtain ⟨e, rest, rfl⟩ := List.exists_cons_of_length_pos (l := rest) (by
      rw [List.length_cons, List.length_cons] at inside
      omega)
    obtain ⟨more, rfl, hmore⟩ := exists_cons_of_take (by omega) same
    obtain ⟨last, rfl, hlast⟩ := exists_cons_of_take (by omega) hmore
    obtain ⟨rest', rfl, -⟩ := exists_cons_of_take (by omega) hlast
    rfl

/-- The first glyph of a text, and the text behind it. -/
theorem ofBytes_cons (b : UInt8) (rest : List UInt8) : ofBytes (b :: rest) =
    ((front? b rest).elim .stray fun f => .char f.1) ::
      ofBytes (rest.drop (((front? b rest).map (·.2)).getD 0)) := by
  rw [ofBytes, ofBytesAfter]
  cases front? b rest with
  | none => rfl
  | some f => exact congrArg (_ :: ·) (ofBytesAfter_eq f.2 rest)

/-- As many glyphs as are told by the bytes that two texts have in common are the first glyphs of both. -/
theorem ofBytes_congr {count : Nat} {bytes bytes' : List UInt8} {n : Nat} (within : sight count bytes ≤ n)
    (inside : sight count bytes ≤ bytes.length) (same : bytes'.take n = bytes.take n) :
    count ≤ (ofBytes bytes).length ∧ (ofBytes bytes').take count = (ofBytes bytes).take count := by
  induction count generalizing bytes bytes' n with
  | zero => exact ⟨Nat.zero_le _, rfl⟩
  | succ count ih =>
    cases bytes with
    | nil => cases inside
    | cons b rest =>
      have hpeek := Nat.max_le.1 inside
      have hpeek' := Nat.max_le.1 within
      rw [List.length_cons] at hpeek
      obtain ⟨rest', rfl, hsame⟩ := exists_cons_of_take (by omega) same
      have hfront : front? b rest' = front? b rest := front?_congr (by omega) hpeek.1 hsame
      rw [ofBytes_cons, ofBytes_cons, hfront]
      generalize ((front? b rest).map (·.2)).getD 0 = more at hpeek hpeek'
      obtain ⟨hlength, htake⟩ := @ih (rest.drop more) (rest'.drop more) (n - 1 - more) (by omega)
        (by rw [List.length_drop]; omega) (by rw [← List.drop_take, hsame, List.drop_take])
      exact ⟨Nat.succ_le_succ hlength, congrArg (_ :: ·) htake⟩

end Numscript.Glyph
