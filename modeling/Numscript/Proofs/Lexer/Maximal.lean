import Numscript.Proofs.Lexer.Findable
import Numscript.Proofs.Lexer.Literal

/-!
# Maximal munch

What a run of the lexer does in the mode of a parsing state, said by the lexemes of the tokens alone. It
passes over a byte order mark at the start of the text and over all white space. Then it finds the longest
lexeme of a token that the mode can find, and of several tokens with that lexeme the literal one, or else
the one that the grammar defines first.
-/
namespace Numscript.Lexer

open Automaton (mode? state? successor? action? acts)
open Grammar (IsLexeme lexeme satisfies spelling?)

/-- The tokens with a rule of their own, in the order in which the grammar defines them. -/
def definitions : List Terminal :=
  [.lineComment, .multilineComment, .variableName, .identifier, .number, .asset, .percentagePortion,
   .string, .accountText]

/-- A text parts into what is passed over at a point, and the rest. -/
structure Passes (p : Point) (text mark gap rest : List Glyph) : Prop where
  split : text = mark ++ (gap ++ rest)
  /-- A byte order mark is passed over at the start of a text only. -/
  atStart : mark = if p.byte = 0 ∧ text.head? = some .byteOrderMark then [.byteOrderMark] else []
  blank : ∀ g ∈ gap, g.isBlank = true
  isMaximal : ∀ g ∈ rest.head?, g.isBlank = false

/-- A token is the choice of a mode for the text that begins with a word. -/
structure Chosen (mode : Nat) (text : List Glyph) (t : Terminal) (w : List Glyph) : Prop where
  begins : ∃ tail, text = w ++ tail
  canFind : CanFind mode t
  isLexeme : IsLexeme t w
  isLongest : ∀ t' w' tail, text = w' ++ tail → CanFind mode t' → IsLexeme t' w' →
    w'.length ≤ w.length
  /-- A literal token is chosen where there is one. -/
  prefersLiteral : ∀ t', CanFind mode t' → IsLexeme t' w → isLiteral t' = true → t = t'
  /-- Where there is none, the token that is defined first is chosen. -/
  prefersFirst : isLiteral t = false → t ∈ definitions ∧
    ∀ t', CanFind mode t' → IsLexeme t' w → definitions.idxOf t ≤ definitions.idxOf t'

/-- What a run in a mode does at a point of a text. -/
structure Munches (mode : Nat) (p : Point) (text mark gap rest : List Glyph) : Prop where
  passes : Passes p text mark gap rest
  marks : (run mode p text).marks = mark.length
  start : (run mode p text).scan.start = gap.length
  accepts_iff : (run mode p text).scan.found.isSome = true ↔
    (∃ t w tail, rest = w ++ tail ∧ CanFind mode t ∧ IsLexeme t w) ∨
      rest = [] ∧ CanFind mode .endOfText
  found : ∀ t stop, (run mode p text).scan.found = some (t, stop) →
    rest = [] ∧ t = .endOfText ∧ stop = gap.length ∨
      ∃ w, stop = gap.length + w.length ∧ Chosen mode rest t w

theorem exists_code_of_isLexeme {t : Terminal} {w : List Glyph} (h : IsLexeme t w) {g : Glyph}
    (hg : g ∈ w) : ∃ code, g = .char code ∧ 1 ≤ code ∧ code ≤ 0x10FFFF := by
  have hall : ∀ t ∈ Terminal.all, ∀ cls ∈ (lexeme t).letters, ∀ r ∈ cls, 1 ≤ r.1 ∧ r.2 ≤ 0x10FFFF := by
    decide +kernel
  obtain ⟨code, rfl, cls, hcls, hcovers⟩ := exists_char_of_isLexeme h hg
  obtain ⟨r, hr, hcode⟩ := List.any_eq_true.1 hcovers
  obtain ⟨hlow, hhigh⟩ := hall t (Terminal.mem_all t) cls hcls r hr
  simp only [Bool.and_eq_true, decide_eq_true_eq] at hcode
  exact ⟨code, rfl, by omega, by omega⟩

/-- A token that is not literal is defined by a rule, and the rules are in the order of the numbers. -/
theorem definitions_spec {t : Terminal} (h : isLiteral t = false) (hne : t ≠ .endOfText) :
    t ∈ definitions ∧ ∀ t', isLiteral t' = true ∨ t.index ≤ t'.index →
      definitions.idxOf t ≤ definitions.idxOf t' := by
  have hall : ∀ t ∈ Terminal.all, isLiteral t = false → t ≠ .endOfText → t ∈ definitions ∧
      ∀ t' ∈ Terminal.all, isLiteral t' = true ∨ t.index ≤ t'.index →
        definitions.idxOf t ≤ definitions.idxOf t' := by
    decide +kernel
  obtain ⟨hmem, hle⟩ := hall t (Terminal.mem_all t) h hne
  exact ⟨hmem, fun t' => hle t' (Terminal.mem_all t')⟩

theorem isComment_of_le {t t' : Terminal} (h : isLiteral t = false) (hne : t ≠ .endOfText)
    (h' : isLiteral t' = true) (hle : t.index ≤ t'.index) : t.isComment = true := by
  have hall : ∀ t ∈ Terminal.all, isLiteral t = false → t ≠ .endOfText →
      ∀ t' ∈ Terminal.all, isLiteral t' = true → t.index ≤ t'.index → t.isComment = true := by
    decide +kernel
  exact hall t (Terminal.mem_all t) h hne t' (Terminal.mem_all t') h' hle

theorem canFind_lexeme_iff {mode : Nat} (hmode : IsMode mode) {t : Terminal} {w : List Glyph} :
    CanFind mode t ∧ IsLexeme t w ↔ (initial mode).Fits t w := by
  rw [fits_initial_iff, canFind_iff hmode]
  constructor
  · rintro ⟨ht | ⟨_, rfl⟩, hlexeme⟩
    · exact ⟨ht, hlexeme⟩
    · exact absurd hlexeme not_isLexeme_endOfText
  · rintro ⟨ht, hlexeme⟩
    exact ⟨.inl ht, hlexeme⟩

/-- The longest match with the least number is the token that a mode chooses. -/
theorem Residue.Munch.chosen {mode : Nat} (hmode : IsMode mode) {text : List Glyph} {t : Terminal}
    {w rest : List Glyph} (h : (initial mode).Munch text t w rest) : Chosen mode text t w := by
  obtain ⟨hcan, hlexeme⟩ := (canFind_lexeme_iff hmode).2 h.fits
  have hne : t ≠ .endOfText := by
    rintro rfl
    exact not_isLexeme_endOfText hlexeme
  have hleast : ∀ t', CanFind mode t' → IsLexeme t' w → t.index ≤ t'.index := fun t' hcan' hlexeme' =>
    h.isLeast t' ((canFind_lexeme_iff hmode).1 ⟨hcan', hlexeme'⟩)
  refine ⟨⟨rest, h.split⟩, hcan, hlexeme, fun t' w' tail split hcan' hlexeme' => ?_,
    fun t' hcan' hlexeme' hliteral' => ?_, fun hliteral => ?_⟩
  · exact h.isLongest t' w' tail split ((canFind_lexeme_iff hmode).1 ⟨hcan', hlexeme'⟩)
  · obtain ⟨word', hword'⟩ := Option.isSome_iff_exists.1 hliteral'
    have hw := (isLexeme_literal_iff hword').1 hlexeme'
    cases hliteral : isLiteral t with
    | true =>
      obtain ⟨word, hword⟩ := Option.isSome_iff_exists.1 hliteral
      exact spelling_injective hword hword' (((isLexeme_literal_iff hword).1 hlexeme).symm.trans hw)
    | false =>
      have hcomment := isComment_of_le hliteral hne hliteral' (hleast t' hcan' hlexeme')
      exact absurd (hw ▸ hlexeme) (not_isLexeme_comment hcomment hword')
  · obtain ⟨hmem, hle⟩ := definitions_spec hliteral hne
    exact ⟨hmem, fun t' hcan' hlexeme' => hle t' (.inr (hleast t' hcan' hlexeme'))⟩

theorem exists_munches {mode : Nat} (hmode : IsMode mode) (p : Point) (text : List Glyph) :
    ∃ mark gap rest, Munches mode p text mark gap rest := by
  obtain ⟨gap, hgap, hblank⟩ := exists_gap p text
  obtain ⟨mark, hmark, hat⟩ := exists_mark p text
  have hmarks : (run mode p text).marks = mark.length := by
    rw [run_eq]
    have hlength := congrArg List.length hmark
    rw [List.length_append] at hlength
    simp only
    omega
  have hscan : (run mode p text).scan = scanFrom mode gap.length gap.length none (body p text) := by
    rw [run_eq]
    exact scan_unmarked hmode hgap hblank
  obtain ⟨hstart, hfound⟩ := scanFrom_body hmode (body_head p text) gap.length
  obtain ⟨hsome, hnone⟩ := Residue.longest_spec (initial_ordered mode) (body p text)
  refine ⟨mark, gap, body p text, ⟨hgap ▸ hmark, hat, hblank, body_head p text⟩, hmarks,
    hscan ▸ hstart, ?_, fun t stop hstop => ?_⟩
  · rw [hscan, hfound]
    split
    · next hend =>
      exact iff_of_true rfl (.inr ⟨hend.1, (canFind_endOfText_iff hmode).2 hend.2⟩)
    · next hend =>
      cases hlongest : (initial mode).longest (body p text) with
      | some f =>
        obtain ⟨w, rest, _, hmunch⟩ := hsome f.1 f.2 hlongest
        exact iff_of_true rfl
          (.inl ⟨f.1, w, rest, hmunch.split, (canFind_lexeme_iff hmode).2 hmunch.fits⟩)
      | none =>
        refine iff_of_false (by simp) ?_
        rintro (⟨t, w, tail, split, hlexeme⟩ | ⟨isOver, hcan⟩)
        · exact hnone hlongest t w tail split ((canFind_lexeme_iff hmode).1 hlexeme)
        · exact hend ⟨isOver, (canFind_endOfText_iff hmode).1 hcan⟩
  · rw [hscan, hfound] at hstop
    split at hstop
    · next hend =>
      obtain ⟨rfl, rfl⟩ := Prod.mk.inj (Option.some.inj hstop)
      exact .inl ⟨hend.1, rfl, rfl⟩
    · obtain ⟨f, hf, hpair⟩ := Option.map_eq_some_iff.1 hstop
      obtain ⟨rfl, rfl⟩ := Prod.mk.inj hpair
      obtain ⟨w, rest, hw, hmunch⟩ := hsome f.1 f.2 hf
      exact .inr ⟨w, by rw [hw], hmunch.chosen hmode⟩

theorem canFind_recovery {mode : Nat} (h : mode? Automaton.recovery = some mode) (t : Terminal) :
    CanFind mode t := by
  obtain rfl : errorMode = mode := Option.some.inj h
  rw [canFind_iff isMode_errorMode]
  have hall : ∀ t ∈ Terminal.all, t ∈ expected errorMode ∨
      (state errorMode).ends = true ∧ t = .endOfText := by
    decide +kernel
  exact hall t (Terminal.mem_all t)

theorem acts_of_successor? {q : Nat} (hq : q ≠ Automaton.recovery) {t : Terminal}
    (h : (successor? q t).isSome = true) : acts q t = true := by
  unfold acts
  by_cases hc : t.isComment = true
  · simp [hc]
  by_cases he : q = Automaton.final ∧ t = .endOfText
  · simp [he]
  rw [successor?, Automaton.action?_of_plain hq (by simpa using hc) he] at h
  cases hl : Automaton.leads? q (.terminal t) <;>
    cases hr : Automaton.reduction? q t <;> simp_all

theorem canFind_of_successor? {q mode : Nat} (hmode : mode? q = some mode) {t : Terminal}
    (h : (successor? q t).isSome = true) : CanFind mode t := by
  by_cases hq : q = Automaton.recovery
  · exact canFind_recovery (hq ▸ hmode) t
  obtain ⟨s, hs, rfl⟩ := Option.map_eq_some_iff.1 hmode
  have hfinds := Automaton.State.expects_of_finds
    (Automaton.finds_of_acts hs (acts_of_successor? hq h))
  rw [canFind_iff (isMode_of_mode? hmode)]
  split at hfinds
  · next hend => exact .inr ⟨hfinds, hend⟩
  · exact .inl hfinds

/-- What the mode of a parsing state finds at any place of a byte string. -/
structure MaximalMunch (q mode : Nat) : Prop where
  /-- The mode can find every token that the state acts on. -/
  actions : ∀ t, (successor? q t).isSome = true → CanFind mode t
  /-- Neither a stray byte nor the code point zero stands in a lexeme. -/
  lexemes : ∀ t w, CanFind mode t → IsLexeme t w → ∀ g ∈ w,
    ∃ code, g = .char code ∧ 1 ≤ code ∧ code ≤ 0x10FFFF
  munches : ∀ (bytes : List UInt8) (p : Point), ∃ mark gap rest,
    Munches mode p (Glyph.ofBytes (bytes.drop p.byte)) mark gap rest

/-- Every parsing state reads its tokens by maximal munch. -/
theorem maximalMunch_of_mode? {q mode : Nat} (h : mode? q = some mode) : MaximalMunch q mode where
  actions _ := canFind_of_successor? h
  lexemes _ _ _ hlexeme _ := exists_code_of_isLexeme hlexeme
  munches bytes p := exists_munches (isMode_of_mode? h) p (Glyph.ofBytes (bytes.drop p.byte))

/-- The first state reads its tokens in a mode of its own. -/
theorem maximalMunch_start : mode? 1 = some 130 ∧ MaximalMunch 1 130 :=
  ⟨rfl, maximalMunch_of_mode? rfl⟩

end Numscript.Lexer
