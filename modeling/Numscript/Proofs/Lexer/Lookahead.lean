import Numscript.Automaton.Table
import Numscript.Proofs.Lexer.Munch

/-!
# Lookaheads

The token that is read at a place of a text. What is passed over before it, a byte order mark at the
start of the text and white space, does not depend on the mode; behind that the mode finds its longest
match, or the end of the text.
-/
namespace Numscript.Lexer

open Grammar (IsLexeme lexeme)

/-- A state in which a token starts. -/
def IsMode (mode : Nat) : Prop := (state mode).skips = true

/-- A mode recognises nothing before it has moved, and its residue is what it starts with. -/
def startsAfresh (mode : Nat) : Bool :=
  !(state mode).skips || (state mode).accepts.isNone &&
    ((access[mode / 64]?).bind (·[mode % 64]?)).any fun a => a.1 == mode && a.2.toList.isEmpty

theorem startsAfresh_of_mem : ∀ q ∈ List.range stateCount, startsAfresh q = true := by
  decide +kernel

theorem IsMode.spec {mode : Nat} (h : IsMode mode) : mode ≠ ending ∧
    (state mode).accepts = none ∧ residue mode = initial mode := by
  have hlt : mode < stateCount := by
    by_contra hle
    rw [IsMode, state_of_le (Nat.le_of_not_lt hle)] at h
    cases h
  have hstarts := startsAfresh_of_mem mode (List.mem_range.2 hlt)
  rw [IsMode] at h
  simp only [startsAfresh, h, Bool.not_true, Bool.false_or, Bool.and_eq_true,
    Option.isNone_iff_eq_none] at hstarts
  refine ⟨?_, hstarts.1, ?_⟩
  · rintro rfl
    cases h
  · cases ha : (access[mode / 64]?).bind (·[mode % 64]?) with
    | none => simp [ha] at hstarts
    | some a =>
      obtain ⟨hmode, hword⟩ : a.1 = mode ∧ a.2.toList = [] := by simpa [ha] using hstarts.2
      simp only [residue, ha, hword, hmode, List.foldl_nil]

theorem initial_ordered (mode : Nat) : (initial mode).Ordered := by
  have hall : Terminal.all.Pairwise fun s t => s.index < t.index := by decide
  exact List.pairwise_map.2 (hall.filter _)

theorem fits_initial_iff {mode : Nat} {t : Terminal} {w : List Glyph} :
    (initial mode).Fits t w ↔ t ∈ expected mode ∧ IsLexeme t w := by
  constructor
  · rintro ⟨e, he, rfl, r, hr, hfits⟩
    obtain ⟨t, ht, rfl⟩ := List.mem_map.1 he
    obtain rfl := List.mem_singleton.1 hr
    exact ⟨ht, hfits⟩
  · rintro ⟨ht, hfits⟩
    exact ⟨_, List.mem_map.2 ⟨t, ht, rfl⟩, rfl, _, List.mem_singleton.2 rfl, hfits⟩

theorem ne_nil_of_isLexeme {t : Terminal} {w : List Glyph} (h : IsLexeme t w) : w ≠ [] := by
  rintro rfl
  have hnull := (Regular.fits_nil_iff _).1 h
  revert hnull
  cases t <;> decide +kernel

/-- The text at a point without a byte order mark at its start. -/
def unmarked (p : Point) (text : List Glyph) : List Glyph :=
  if p.byte = 0 ∧ text.head? = some .byteOrderMark then text.tail else text

/-- The text behind what is passed over at a point. -/
def body (p : Point) (text : List Glyph) : List Glyph :=
  (unmarked p text).dropWhile (·.isBlank)

theorem body_of_head {p : Point} {g : Glyph} {text : List Glyph} (hp : p.byte ≠ 0)
    (hg : g.isBlank = false) : body p (g :: text) = g :: text := by
  rw [body, unmarked, if_neg (by simp [hp]), List.dropWhile_cons_of_neg (by simp [hg])]

/-- What is passed over at a point. -/
def lead (p : Point) (text : List Glyph) : List Glyph :=
  text.take (text.length - (body p text).length)

theorem lead_eq_nil {p : Point} {text : List Glyph} (h : body p text = text) : lead p text = [] := by
  rw [lead, h, Nat.sub_self, List.take_zero]

theorem exists_mark (p : Point) (text : List Glyph) : ∃ mark, text = mark ++ unmarked p text ∧
    mark = if p.byte = 0 ∧ text.head? = some .byteOrderMark then [.byteOrderMark] else [] := by
  refine ⟨_, ?_, rfl⟩
  unfold unmarked
  split
  · next h =>
    cases text with
    | nil => simp at h
    | cons g text => simpa using h.2
  · rfl

theorem exists_gap (p : Point) (text : List Glyph) :
    ∃ gap, unmarked p text = gap ++ body p text ∧ ∀ g ∈ gap, g.isBlank = true :=
  ⟨(unmarked p text).takeWhile (·.isBlank), List.takeWhile_append_dropWhile.symm,
    fun g hg => List.all_eq_true.1 List.all_takeWhile g hg⟩

/-- What is passed over is white space, behind a byte order mark at the start of the text. -/
theorem lead_append_body (p : Point) (text : List Glyph) : lead p text ++ body p text = text := by
  obtain ⟨mark, hmark, _⟩ := exists_mark p text
  obtain ⟨gap, hgap, _⟩ := exists_gap p text
  have htext : text = (mark ++ gap) ++ body p text := by
    rw [List.append_assoc, ← hgap, ← hmark]
  have hlead : lead p text = mark ++ gap := by
    have hlength := congrArg List.length htext
    rw [List.length_append] at hlength
    rw [lead, hlength, Nat.add_sub_cancel]
    conv_lhs => rw [htext]
    rw [List.take_left]
  rw [hlead, ← htext]

theorem scanFrom_gap {mode : Nat} (h : IsMode mode) {gap text : List Glyph}
    (hgap : ∀ g ∈ gap, g.isBlank = true) (here : Nat) (found : Option (Terminal × Nat)) :
    scanFrom mode here here found (gap ++ text) =
      scanFrom mode (here + gap.length) (here + gap.length) found text := by
  induction gap generalizing here with
  | nil => rfl
  | cons g gap ih =>
    have hblank := hgap g List.mem_cons_self
    rw [IsMode] at h
    rw [List.cons_append, scanFrom.eq_def]
    simp only [h, hblank, Bool.and_self, if_true]
    rw [ih fun g hg => hgap g (List.mem_cons_of_mem _ hg), List.length_cons]
    congr 1 <;> omega

/-- A run begins at its body, where the white space before it has been passed over. -/
theorem scan_unmarked {mode : Nat} (h : IsMode mode) {p : Point} {text gap : List Glyph}
    (hgap : unmarked p text = gap ++ body p text) (blank : ∀ g ∈ gap, g.isBlank = true) :
    scan mode (unmarked p text) = scanFrom mode gap.length gap.length none (body p text) := by
  rw [scan, hgap, scanFrom_gap h blank, Nat.zero_add]

/-- Where no white space stands, a mode finds its longest match. -/
theorem scanFrom_body {mode : Nat} (h : IsMode mode) {text : List Glyph}
    (hbody : ∀ g ∈ text.head?, g.isBlank = false) (here : Nat) :
    (scanFrom mode here here none text).start = here ∧
      (scanFrom mode here here none text).found =
        if text = [] ∧ (state mode).ends = true then some (.endOfText, here)
        else ((initial mode).longest text).map fun f => (f.1, here + f.2) := by
  obtain ⟨hne, haccepts, hresidue⟩ := h.spec
  have hfound : (initial mode).found? = none := by rw [← hresidue, ← accepts_eq hne, haccepts]
  have hrecognise : (state mode).recognise here none = none := by
    rw [State.recognise, haccepts]
  cases text with
  | nil =>
    simp only [scanFrom, hrecognise, true_and, Residue.longest, hfound, Option.map_none]
  | cons g text =>
    have hblank : g.isBlank = false := hbody g rfl
    rw [scanFrom.eq_def]
    simp only [hblank, Bool.and_false, Bool.false_eq_true, if_false, reduceCtorEq, false_and,
      Residue.longest, hfound, Option.map_none, Option.or_none]
    cases g with
    | stray => simp [hrecognise, Residue.after_stray]
    | char code =>
      cases hmove : (state mode).next? code with
      | none =>
        have hafter := next?_eq_none hne hmove
        rw [hresidue] at hafter
        simp [hmove, hrecognise, hafter]
      | some r =>
        obtain ⟨hr, hrskips, hrends, hafter⟩ := next?_eq_some hne hmove
        rw [hresidue] at hafter
        obtain ⟨hstart, hrun⟩ := scanFrom_eq hr hrskips hrends here (here + 1) none text
        simp only [hmove, hrecognise]
        refine ⟨hstart, ?_⟩
        rw [hrun, hafter, Option.or_none, Option.map_map]
        congr 1
        funext f
        simp only [Function.comp_apply]
        congr 1
        omega

theorem body_head (p : Point) (text : List Glyph) : ∀ g ∈ (body p text).head?, g.isBlank = false := by
  intro g hg
  have hnot := List.head?_dropWhile_not (fun g : Glyph => g.isBlank) (unmarked p text)
  rw [body, Option.mem_def] at hg
  rw [hg] at hnot
  simpa using hnot

theorem run_eq (mode : Nat) (p : Point) (text : List Glyph) : run mode p text =
    ⟨mode, p, text.length - (unmarked p text).length, scan mode (unmarked p text)⟩ := by
  unfold run unmarked
  split
  · next h =>
    cases text with
    | nil => simp at h
    | cons g text => simp
  · simp

/-- The token at a point: the end of the text, or the longest match behind what is passed over. -/
theorem token?_run {mode : Nat} (h : IsMode mode) (p : Point) (text : List Glyph) :
    (run mode p text).token? text =
      if body p text = [] ∧ (state mode).ends = true then
        some ⟨.endOfText, p.behind (lead p text), p.behind (lead p text)⟩
      else ((initial mode).longest (body p text)).map fun f =>
        ⟨f.1, p.behind (lead p text), p.behind (lead p text ++ (body p text).take f.2)⟩ := by
  obtain ⟨gap, hgap, hblank⟩ := exists_gap p text
  obtain ⟨mark, hmark, _⟩ := exists_mark p text
  have hscan := scan_unmarked h hgap hblank
  obtain ⟨hstart, hfound⟩ := scanFrom_body h (body_head p text) gap.length
  have hlength : (lead p text).length = text.length - (unmarked p text).length + gap.length := by
    have htext := congrArg List.length (lead_append_body p text)
    have hunmarked := congrArg List.length hgap
    have hmarked := congrArg List.length hmark
    simp only [List.length_append] at htext hunmarked hmarked
    omega
  have htake : ∀ n, text.take ((lead p text).length + n) =
      lead p text ++ (body p text).take n := by
    intro n
    have happend : (lead p text ++ body p text).take ((lead p text).length + n) =
        lead p text ++ (body p text).take n := List.take_length_add_append n
    rwa [lead_append_body] at happend
  have hlead : text.take (lead p text).length = lead p text := by
    simpa using htake 0
  rw [run_eq]
  simp only [Run.token?, Run.lead, hscan, hstart, hfound, ← hlength, hlead]
  split
  · simp only [Option.map_some, ← hlength, hlead]
  · rw [Option.map_map]
    congr 1
    funext f
    simp only [Function.comp_apply, ← Nat.add_assoc, ← hlength, htake]

theorem not_isLexeme_endOfText {w : List Glyph} : ¬ IsLexeme .endOfText w :=
  Regular.fits_never

/-- The token that a run finds is the end of the text or the longest match of its mode. -/
theorem token?_run_spec {mode : Nat} (h : IsMode mode) {p : Point} {text : List Glyph}
    {token : Token} (ht : (run mode p text).token? text = some token) :
    token.start = p.behind (lead p text) ∧
      ((token.kind = .endOfText ∧ body p text = [] ∧ token.stop = token.start) ∨
        ∃ w rest, (initial mode).Munch (body p text) token.kind w rest ∧
          token.stop = p.behind (lead p text ++ w)) := by
  rw [token?_run h] at ht
  split at ht
  · next hend =>
    obtain rfl := Option.some.inj ht
    exact ⟨rfl, .inl ⟨rfl, hend.1, rfl⟩⟩
  · obtain ⟨f, hf, rfl⟩ := Option.map_eq_some_iff.1 ht
    obtain ⟨w, rest, hw, hmunch⟩ :=
      (Residue.longest_spec (initial_ordered mode) (body p text)).1 f.1 f.2 hf
    refine ⟨rfl, .inr ⟨w, rest, hmunch, ?_⟩⟩
    simp only [hmunch.split, ← hw, List.take_left]

theorem isMode_errorMode : IsMode errorMode := rfl

/-- A token is the end of the text, or it spans one of its lexemes. -/
theorem lookahead?_spec {mode : Nat} (h : IsMode mode) {p : Point} {text : List Glyph}
    {token : Token} (ht : lookahead? mode p text = some token) :
    token.start = p.behind (lead p text) ∧
      ((token.kind = .endOfText ∧ body p text = [] ∧ token.stop = token.start) ∨
        ∃ w rest, body p text = w ++ rest ∧ IsLexeme token.kind w ∧
          token.stop = p.behind (lead p text ++ w)) := by
  have hfrom : ∃ mode, IsMode mode ∧ (run mode p text).token? text = some token := by
    rcases Option.or_eq_some_iff.1 ht with hrun | ⟨_, hrun⟩
    · exact ⟨mode, h, hrun⟩
    · exact ⟨errorMode, isMode_errorMode, hrun⟩
  obtain ⟨mode, hmode, hrun⟩ := hfrom
  obtain ⟨hstart, hend | ⟨w, rest, hmunch, hstop⟩⟩ := token?_run_spec hmode hrun
  · exact ⟨hstart, .inl hend⟩
  · exact ⟨hstart, .inr ⟨w, rest, hmunch.split, (fits_initial_iff.1 hmunch.fits).2, hstop⟩⟩

theorem isMode_of_mem : ∀ page ∈ Automaton.pages, ∀ s ∈ page, IsMode s.mode := by
  unfold IsMode
  decide +kernel

end Numscript.Lexer
