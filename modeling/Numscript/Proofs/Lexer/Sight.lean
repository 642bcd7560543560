import Numscript.Lexer.Token
import Numscript.Parser.Lexing

/-!
# What a run sees of a text

A run of the lexer depends on the glyphs that it passes and on the one before which it stops, and on nothing
behind. So does the token that it finds.
-/
namespace Numscript.Lexer

theorem le_stop_scanFrom (q start here : Nat) (found : Option (Terminal × Nat)) (text : List Glyph) :
    here ≤ (scanFrom q start here found text).stop := by
  induction text generalizing q start here found with
  | nil => exact Nat.le_refl _
  | cons g text ih =>
    rw [scanFrom.eq_def]
    simp only
    repeat' split
    · exact Nat.le_of_succ_le (ih q (here + 1) (here + 1) found)
    · exact Nat.le_refl _
    · next r _ => exact Nat.le_of_succ_le (ih r start (here + 1) _)
    · exact Nat.le_refl _

/-- What a run finds lies before the place where it stops. -/
structure Scan.Bounded (s : Scan) : Prop where
  start_le : s.start ≤ s.stop
  found_le : ∀ f ∈ s.found, f.2 ≤ s.stop

theorem recognise_le {here : Nat} {found : Option (Terminal × Nat)} (s : State)
    (h : ∀ f ∈ found, f.2 ≤ here) : ∀ f ∈ s.recognise here found, f.2 ≤ here := by
  rw [State.recognise.eq_def]
  cases s.accepts with
  | none => exact h
  | some t => simp

theorem bounded_scanFrom {q start here : Nat} {found : Option (Terminal × Nat)} (text : List Glyph)
    (hstart : start ≤ here) (hfound : ∀ f ∈ found, f.2 ≤ here) :
    (scanFrom q start here found text).Bounded := by
  induction text generalizing q start here found with
  | nil =>
    refine ⟨hstart, ?_⟩
    simp only [scanFrom]
    split
    · simp
    · exact recognise_le _ hfound
  | cons g text ih =>
    have hlater {found : Option (Terminal × Nat)} (h : ∀ f ∈ found, f.2 ≤ here) :
        ∀ f ∈ found, f.2 ≤ here + 1 := fun f hf => Nat.le_succ_of_le (h f hf)
    rw [scanFrom.eq_def]
    simp only
    repeat' split
    · exact ih (Nat.le_refl _) (hlater hfound)
    · exact ⟨hstart, recognise_le _ hfound⟩
    · exact ih (Nat.le_succ_of_le hstart) (hlater (recognise_le _ hfound))
    · exact ⟨hstart, recognise_le _ hfound⟩

theorem bounded_scan (q : Nat) (text : List Glyph) : (scan q text).Bounded :=
  bounded_scanFrom text (Nat.le_refl _) nofun

/-- A run does not depend on what lies behind the glyph before which it stops. -/
theorem scanFrom_congr {q start here : Nat} {found : Option (Terminal × Nat)} {word more more' : List Glyph}
    (h : (scanFrom q start here found (word ++ more)).stop < here + word.length) :
    scanFrom q start here found (word ++ more') = scanFrom q start here found (word ++ more) := by
  induction word generalizing q start here found with
  | nil =>
    have hle := le_stop_scanFrom q start here found more
    rw [List.nil_append, List.length_nil] at h
    omega
  | cons g word ih =>
    have hshift : here + (g :: word).length = here + 1 + word.length := by
      rw [List.length_cons]
      omega
    rw [hshift, List.cons_append, scanFrom.eq_def] at h
    rw [List.cons_append, List.cons_append, scanFrom.eq_def, scanFrom.eq_def]
    simp only at h ⊢
    split
    · next hskip =>
      rw [if_pos hskip] at h
      exact ih h
    · next hkept =>
      rw [if_neg hkept] at h
      cases g with
      | stray => rfl
      | char code =>
        cases hnext : (state q).next? code with
        | none => simp only [hnext]
        | some r =>
          simp only [hnext] at h ⊢
          exact ih h

theorem scan_congr {q : Nat} {text text' : List Glyph} (inside : (scan q text).stop < text.length)
    (same : text'.take ((scan q text).stop + 1) = text.take ((scan q text).stop + 1)) :
    scan q text' = scan q text := by
  have hlength : (text.take ((scan q text).stop + 1)).length = (scan q text).stop + 1 := by
    rw [List.length_take]
    omega
  generalize hstop : (scan q text).stop = stop at *
  rw [← List.take_append_drop (stop + 1) text, ← List.take_append_drop (stop + 1) text', same]
  refine scanFrom_congr ?_
  rw [List.take_append_drop, ← scan, hstop, hlength]
  omega

/-- Two texts are alike up to the glyph before which a run stops in the first one. -/
structure Run.Shares (r : Run) (text text' : List Glyph) : Prop where
  inside : r.length < text.length
  same : text'.take (r.length + 1) = text.take (r.length + 1)

theorem Run.Shares.take_eq {r : Run} {text text' : List Glyph} (h : r.Shares text text') {n : Nat}
    (hn : n ≤ r.length + 1) : text'.take n = text.take n := by
  rw [← Nat.min_eq_left hn, ← List.take_take, ← List.take_take, h.same]

theorem Run.Shares.exists_cons {r : Run} {g : Glyph} {rest text' : List Glyph}
    (h : r.Shares (g :: rest) text') : ∃ rest', text' = g :: rest' := by
  have hfirst := h.take_eq (Nat.le_add_left 1 _)
  cases text' with
  | nil => cases hfirst
  | cons g' rest' => exact ⟨rest', by rw [(List.cons.inj hfirst).1]⟩

theorem run_congr {mode : Nat} {p : Point} {text text' : List Glyph}
    (h : (run mode p text).Shares text text') : run mode p text' = run mode p text := by
  have hhead : text'.head? = text.head? := by
    have hfirst := congrArg List.head? (h.take_eq (Nat.le_add_left 1 _))
    rwa [List.head?_take, List.head?_take, if_neg Nat.one_ne_zero, if_neg Nat.one_ne_zero] at hfirst
  obtain ⟨inside, same⟩ := h
  unfold run at inside same ⊢
  rw [hhead]
  split
  · next hmark =>
    rw [if_pos hmark] at inside same
    simp only [Run.length] at inside same
    rw [scan_congr]
    · rw [List.length_tail]
      omega
    · have htail := congrArg (List.drop 1) same
      rwa [List.drop_take, List.drop_take, Nat.add_sub_cancel, Nat.add_comm 1, List.drop_one,
        List.drop_one] at htail
  · next hplain =>
    rw [if_neg hplain] at inside same
    simp only [Run.length, Nat.zero_add] at inside same
    rw [scan_congr inside same]

theorem bounded_run (mode : Nat) (p : Point) (text : List Glyph) : (run mode p text).scan.Bounded := by
  unfold run
  split <;> exact bounded_scan _ _

/-- They hold the same token there. -/
theorem token?_congr {mode : Nat} {p : Point} {text text' : List Glyph}
    (h : (run mode p text).Shares text text') :
    (run mode p text').token? text' = (run mode p text).token? text := by
  rw [run_congr h]
  have hbounded := bounded_run mode p text
  unfold Run.token?
  cases hfound : (run mode p text).scan.found with
  | none => rfl
  | some f =>
    have hstart := hbounded.start_le
    have hstop := hbounded.found_le f hfound
    have hlead : (run mode p text).lead ≤ (run mode p text).length + 1 := by
      unfold Run.lead Run.length
      omega
    have hend : (run mode p text).marks + f.2 ≤ (run mode p text).length + 1 := by
      unfold Run.length
      omega
    rw [Option.map_some, Option.map_some, h.take_eq hlead, h.take_eq hend]

theorem point_run (mode : Nat) (p : Point) (text : List Glyph) : (run mode p text).point = p := by
  unfold run
  split <;> rfl

/-- A token ends before the place where the run stops that found it. -/
theorem exists_take_of_token? {mode : Nat} {p : Point} {text : List Glyph} {token : Token}
    (h : (run mode p text).token? text = some token) :
    ∃ n ≤ (run mode p text).length + 1, token.stop = p.behind (text.take n) := by
  obtain ⟨f, hfound, rfl⟩ := Option.map_eq_some_iff.1 h
  refine ⟨(run mode p text).marks + f.2, ?_, by rw [point_run]⟩
  have hstop := (bounded_run mode p text).found_le f hfound
  unfold Run.length
  omega

theorem token?_eq_none {mode : Nat} {p : Point} {text : List Glyph} :
    (run mode p text).token? text = none ↔ (run mode p text).scan.found = none := by
  rw [Run.token?, Option.map_eq_none_iff]

theorem own_mem_attempts (mode : Nat) (p : Point) (text : List Glyph) :
    run mode p text ∈ attempts mode p text := by
  unfold attempts
  split <;> simp

theorem point_of_mem_attempts {mode : Nat} {p : Point} {text : List Glyph} {r : Run}
    (h : r ∈ attempts mode p text) : r.point = p := by
  have hpoints : ∀ r ∈ attempts mode p text, r.point = p := by
    unfold attempts
    split <;> simp [point_run]
  exact hpoints r h

theorem error_mem_attempts {mode : Nat} {p : Point} {text : List Glyph}
    (h : (run mode p text).token? text = none) : run errorMode p text ∈ attempts mode p text := by
  rw [attempts, token?_eq_none.1 h]
  simp

/-- Where two texts are alike as far as the attempts to read a token see, they have the same token. -/
theorem lookahead?_congr {mode : Nat} {p : Point} {text text' : List Glyph}
    (h : ∀ r ∈ attempts mode p text, r.Shares text text') :
    lookahead? mode p text' = lookahead? mode p text := by
  rw [lookahead?, lookahead?, token?_congr (h _ (own_mem_attempts mode p text))]
  cases hown : (run mode p text).token? text with
  | some token => rfl
  | none => rw [token?_congr (h _ (error_mem_attempts hown))]

theorem exists_take_of_lookahead? {mode : Nat} {p : Point} {text : List Glyph} {token : Token}
    (h : lookahead? mode p text = some token) :
    ∃ r ∈ attempts mode p text, ∃ n ≤ r.length + 1, token.stop = p.behind (text.take n) := by
  rcases Option.or_eq_some_iff.1 h with hown | ⟨hnone, herror⟩
  · exact ⟨_, own_mem_attempts mode p text, exists_take_of_token? hown⟩
  · exact ⟨_, error_mem_attempts hnone, exists_take_of_token? herror⟩

end Numscript.Lexer
