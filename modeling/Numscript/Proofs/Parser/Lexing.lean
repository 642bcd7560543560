import Numscript.Proofs.Lexer.Sight
import Numscript.Proofs.Parser.Furthest

/-!
# Parsing alike

Two texts are parsed alike as long as they are alike where the lexer looks. A front does the same with both
before a token, as the runs of the lexer are the same. So the sweeps over the two texts go on together, and
where one of them fails before the texts part, so does the other.
-/
namespace Numscript.Parser

open Lexer (Run attempts)

section
variable {below : Option Nat} {p : Point} {text text' : List Glyph}

theorem advanceStack_congr {stack : Stack}
    (h : ∀ r ∈ stackLexings below p text stack, r.Shares text text') :
    advanceStack below p text' stack = advanceStack below p text stack := by
  unfold advanceStack
  cases htop : stack.top? below with
  | none => rfl
  | some q =>
    cases hmode : Automaton.mode? q with
    | none => simp only [hmode, Option.bind_none]
    | some mode =>
      simp only [stackLexings, htop, Option.bind_some, hmode] at h
      simp only [hmode, Option.bind_some, Lexer.lookahead?_congr h]

theorem endingsAt_congr {readings : List Reading}
    (h : ∀ r ∈ lexingsAt below p text readings, r.Shares text text') :
    endingsAt below p text' readings = endingsAt below p text readings := by
  refine List.flatMap_congr fun r hr => ?_
  split
  · next hp =>
    refine advanceStack_congr fun run hrun => h run (List.mem_flatMap.2 ⟨r, hr, ?_⟩)
    rwa [if_pos hp]
  · rfl

/-- A front does the same with two texts that are alike where it looks for a token. -/
theorem advance_congr {spine : List Junction} {readings : List Reading}
    (h : ∀ r ∈ advanceLexings p text spine readings, r.Shares text text') :
    advance p text' spine readings = advance p text spine readings := by
  induction spine generalizing readings with
  | nil => rw [advance, advance, endingsAt_congr h]
  | cons j spine ih =>
    rw [advanceLexings, List.forall_mem_append] at h
    rw [advance, advance, endingsAt_congr h.1]
    by_cases hshort : isShort (endingsAt none p text readings) = true
    · rw [if_pos hshort] at h
      simp only [hshort, if_true, ih h.2]
    · simp only [hshort, Bool.false_eq_true, if_false]

/-- A stack that is not short of what lies below it is known by its own top. -/
theorem stackLexings_append {r : Reading} (hp : r.point = p) {readings : List Reading} (hr : r ∈ readings)
    (plain : ¬isShort (endingsAt none p text readings) = true) (lower : Stack) :
    stackLexings ground p text (r.stack ++ lower) = stackLexings none p text r.stack := by
  cases htop : r.stack.top? none with
  | none =>
    refine absurd (List.any_eq_true.2 ⟨(.short, p), List.mem_flatMap.2 ⟨r, hr, ?_⟩, rfl⟩) plain
    rw [if_pos hp, advanceStack, htop]
    exact List.mem_singleton.2 rfl
  | some q =>
    rw [stackLexings, stackLexings, Stack.top?_ground, Stack.state_append htop lower, htop]

/-- The runs that read a token for a reading with its whole stack are among those of the front. -/
theorem mem_advanceLexings {spine : List Junction} {readings : List Reading} {y : Reading}
    (hy : y ∈ wholes spine readings) (hp : y.point = p) :
    ∀ r ∈ stackLexings ground p text y.stack, r ∈ advanceLexings p text spine readings := by
  intro run hrun
  induction spine generalizing readings with
  | nil =>
    rw [wholes_nil] at hy
    exact List.mem_flatMap.2 ⟨y, hy, by rwa [if_pos hp]⟩
  | cons j spine ih =>
    rw [advanceLexings, List.mem_append]
    split
    · rw [← wholes_lower] at hy
      exact .inr (ih hy)
    · next plain =>
      obtain ⟨r, hr, lower, _, rfl⟩ := mem_wholes.1 hy
      replace hp : r.point = p := hp
      refine .inl (List.mem_flatMap.2 ⟨r, hr, ?_⟩)
      rwa [if_pos hp, ← stackLexings_append hp hr plain lower]

end

theorem Viable.exists_lexing {stack : Stack} (h : Viable stack) (p : Point) (text : List Glyph) :
    ∃ mode, stackLexings ground p text stack = attempts mode p text ∧
      ∀ token, Reading.token? ⟨stack, p⟩ text = some token → Lexer.lookahead? mode p text = some token := by
  obtain ⟨mode, hmode, _⟩ := h.isMode
  refine ⟨mode, ?_, fun token htoken => ?_⟩
  · rw [stackLexings, Stack.top?_ground, Option.bind_some, hmode]
  · rwa [Reading.token?, Stack.top?_ground, Option.bind_some, hmode] at htoken

/-- Behind some glyphs, two texts are alike as far as a reading has read. -/
def Reading.Shares (before rest rest' : List Glyph) (r : Reading) : Prop :=
  ∃ read more more', rest = read ++ more ∧ rest' = read ++ more' ∧
    r.point = Point.origin.behind (before ++ read)

theorem Reading.Shares.exists_cons {before rest rest' : List Glyph} {g : Glyph} {r : Reading}
    (h : r.Shares before (g :: rest) rest') (hp : r.point ≠ Point.origin.behind before) :
    ∃ more', rest' = g :: more' ∧ r.Shares (before ++ [g]) rest more' := by
  obtain ⟨read, more, more', hrest, rfl, hpoint⟩ := h
  cases read with
  | nil => exact absurd (by simpa using hpoint) hp
  | cons g' read =>
    obtain ⟨rfl, rfl⟩ := List.cons.inj hrest
    exact ⟨read ++ more', rfl, read, more, more', rfl, rfl, by simpa using hpoint⟩

/-- What a reading becomes has read no more than its attempts to read a token saw. -/
theorem Reading.Shares.next {before rest more' : List Glyph} {g : Glyph} {x y : Reading}
    (hy : Viable y.stack) (shares : y.Shares before (g :: rest) (g :: more'))
    (alike : y.point = Point.origin.behind before →
      ∀ run ∈ stackLexings ground y.point (g :: rest) y.stack, run.Shares (g :: rest) (g :: more'))
    (h : x ∈ y.nexts (Point.origin.behind before) (g :: rest)) : x.Shares (before ++ [g]) rest more' := by
  by_cases hp : y.point = Point.origin.behind before
  · rw [← hp] at h
    obtain ⟨token, htoken, _, hpoint⟩ := (mem_nexts_iff hy).1 h
    obtain ⟨mode, hlexings, hlookahead⟩ := hy.exists_lexing y.point (g :: rest)
    obtain ⟨run, hrun, n, hn, hstop⟩ := Lexer.exists_take_of_lookahead? (hlookahead token htoken)
    have hshares := alike hp run (hlexings ▸ hrun)
    obtain ⟨word, more, hne, hword, hplace⟩ := point_of_mem_nexts hy hp h
    -- The glyphs up to the end of the token are those that the run has passed.
    have hpassed : (g :: rest).take n = word := by
      rw [hpoint, hstop, hp, ← Point.behind_append] at hplace
      have hsplit : before ++ (g :: rest).take n ++ (g :: rest).drop n = before ++ word ++ more := by
        rw [List.append_assoc, List.take_append_drop, List.append_assoc, hword]
      exact List.append_cancel_left (Point.eq_of_behind hsplit hplace).1
    have hword' : g :: more' = word ++ (g :: more').drop n := by
      rw [← hpassed, ← hshares.take_eq hn, List.take_append_drop]
    cases word with
    | nil => exact absurd rfl hne
    | cons g' word =>
      obtain ⟨rfl, hrest⟩ := List.cons.inj hword
      exact ⟨word, more, _, hrest, (List.cons.inj hword').2, by simpa using hplace⟩
  · rw [nexts_of_ne hp] at h
    obtain rfl := List.mem_singleton.1 h
    obtain ⟨_, heq, hshares⟩ := shares.exists_cons hp
    rwa [(List.cons.inj heq).2]

/-! ### Sweeps -/

theorem point_of_mem_lexingsAt {below : Option Nat} {p : Point} {text : List Glyph} {readings : List Reading}
    {run : Run} (h : run ∈ lexingsAt below p text readings) : run.point = p := by
  obtain ⟨r, _, h⟩ := List.mem_flatMap.1 h
  split at h
  · unfold stackLexings at h
    split at h
    · cases h
    · exact Lexer.point_of_mem_attempts h
  · cases h

theorem point_of_mem_advanceLexings {p : Point} {text : List Glyph} {spine : List Junction}
    {readings : List Reading} {run : Run} (h : run ∈ advanceLexings p text spine readings) :
    run.point = p := by
  induction spine generalizing readings with
  | nil => exact point_of_mem_lexingsAt h
  | cons j spine ih =>
    rw [advanceLexings, List.mem_append] at h
    rcases h with h | h
    · exact point_of_mem_lexingsAt h
    · split at h
      · exact ih h
      · cases h

/-- Two texts are alike as far as a run sees, wherever it starts. -/
def Sees (text text' : List Glyph) (run : Run) : Prop :=
  ∀ before rest rest', text = before ++ rest → text' = before ++ rest' →
    run.point = Point.origin.behind before → run.Shares rest rest'

/-- A reading makes a run with its next token. -/
theorem exists_mem_advanceLexings {spine : List Junction} {readings : List Reading} {y : Reading}
    (text : List Glyph) (hv : Viable y.stack) (hy : y ∈ wholes spine readings) :
    ∃ run, run ∈ advanceLexings y.point text spine readings := by
  obtain ⟨mode, hlexings, _⟩ := hv.exists_lexing y.point text
  refine ⟨Lexer.run mode y.point text, mem_advanceLexings hy rfl _ ?_⟩
  rw [hlexings]
  exact Lexer.own_mem_attempts mode y.point text

section
variable {text text' before rest rest' : List Glyph} {front : Front}

theorem Front.exists_mem_wholes (inhabited : front.readings ≠ []) : ∃ x, x ∈ front.wholes := by
  obtain ⟨r, hr⟩ := List.exists_mem_of_ne_nil _ inhabited
  obtain ⟨x, hx, _⟩ := Front.exists_whole hr
  exact ⟨x, hx⟩

/-- Where a reading stands, its attempts to read a token have seen the next glyph, so both texts have it. -/
theorem exists_cons_of_stands {g : Glyph} (sound : front.Sound text before)
    (stands : (front.readings.any (·.point = Point.origin.behind before)) = true)
    (alike : ∀ run ∈ advanceLexings (Point.origin.behind before) (g :: rest) front.spine front.readings,
      run.Shares (g :: rest) rest') : ∃ more', rest' = g :: more' := by
  obtain ⟨r, hr, hstands⟩ := List.any_eq_true.1 stands
  obtain ⟨x, hx, hxr⟩ := Front.exists_whole hr
  obtain ⟨run, hrun⟩ := exists_mem_advanceLexings (g :: rest) (sound x hx).viable hx
  rw [hxr, of_decide_eq_true hstands] at hrun
  exact (alike run hrun).exists_cons

/-- Behind the next glyph, two texts are alike as far as the readings of the next front have read. -/
theorem shares_of_advance {g : Glyph} {more' : List Glyph} {next : Front} (sound : front.Sound text before)
    (shares : ∀ x ∈ front.wholes, x.Shares before (g :: rest) (g :: more'))
    (alike : ∀ run ∈ advanceLexings (Point.origin.behind before) (g :: rest) front.spine front.readings,
      run.Shares (g :: rest) (g :: more'))
    (h : advance (Point.origin.behind before) (g :: rest) front.spine front.readings = .alive next) :
    ∀ x ∈ next.wholes, x.Shares (before ++ [g]) rest more' := by
  intro x hx
  obtain ⟨y, hy, hnext⟩ := (advance_frontier sound h).1 x hx
  refine (shares y hy).next (sound y hy).viable (fun hp run hrun => ?_) hnext
  rw [hp] at hrun
  exact alike run (mem_advanceLexings hy hp run hrun)

end

/-- Where one of two texts fails before the texts part, so does the other, at the same place. -/
theorem sweep_congr {text text' before rest rest' : List Glyph} {front : Front} {p : Point}
    (split : text = before ++ rest) (split' : text' = before ++ rest') (sound : front.Sound text before)
    (inhabited : front.readings ≠ []) (shares : ∀ x ∈ front.wholes, x.Shares before rest rest')
    (sees : ∀ run ∈ sweepLexings front (Point.origin.behind before) rest, Sees text text' run)
    (h : sweep front (Point.origin.behind before) rest = .invalid p) :
    sweep front (Point.origin.behind before) rest' = .invalid p := by
  induction rest generalizing before rest' front with
  | nil =>
    -- The run of the last token looks behind the end of the text.
    obtain ⟨x, hx⟩ := Front.exists_mem_wholes inhabited
    obtain ⟨read, more, more', hrest, _, hpoint⟩ := shares x hx
    obtain ⟨rfl, _⟩ := List.nil_eq_append_iff.1 hrest
    rw [List.append_nil] at hpoint
    obtain ⟨run, hrun⟩ := exists_mem_advanceLexings [] (sound x hx).viable hx
    rw [hpoint] at hrun
    have hshares := sees run hrun before [] rest' split split' (point_of_mem_advanceLexings hrun)
    exact absurd hshares.inside (Nat.not_lt_zero _)
  | cons g rest ih =>
    have hsplit : text = (before ++ [g]) ++ rest := by simpa using split
    rw [sweepLexings] at sees
    rw [sweep] at h
    by_cases hany : (front.readings.any (·.point = Point.origin.behind before)) = true
    · rw [if_pos hany] at sees h
      rw [List.forall_mem_append] at sees
      have halike : ∀ run ∈ advanceLexings (Point.origin.behind before) (g :: rest) front.spine
          front.readings, run.Shares (g :: rest) rest' := fun run hrun =>
        sees.1 run hrun before _ rest' split split' (point_of_mem_advanceLexings hrun)
      obtain ⟨more', rfl⟩ := exists_cons_of_stands sound hany halike
      have hsplit' : text' = (before ++ [g]) ++ more' := by simpa using split'
      rw [sweep, if_pos hany, advance_congr halike]
      cases hadvance : advance (Point.origin.behind before) (g :: rest) front.spine front.readings with
      | accepted root => simp [hadvance] at h
      | alive next =>
        simp only [hadvance] at sees h ⊢
        by_cases hempty : next.readings.isEmpty = true
        · rw [if_pos hempty] at h ⊢
          exact h
        · rw [if_neg hempty] at sees h ⊢
          rw [← behind_snoc] at sees h ⊢
          have hshares := shares_of_advance sound shares halike hadvance
          exact ih hsplit hsplit' (sound.advance split hadvance) (by simpa using hempty) hshares sees.2 h
    · have hnone := point_ne_of_any hany
      obtain ⟨x, hx⟩ := Front.exists_mem_wholes inhabited
      obtain ⟨more', rfl, _⟩ := (shares x hx).exists_cons (hnone x hx)
      have hsplit' : text' = (before ++ [g]) ++ more' := by simpa using split'
      rw [if_neg hany] at sees h
      rw [sweep, if_neg hany]
      rw [← behind_snoc] at sees h ⊢
      refine ih hsplit hsplit' (sound.keep split hnone) inhabited (fun y hy => ?_) sees h
      obtain ⟨_, heq, hshares⟩ := (shares y hy).exists_cons (hnone y hy)
      rwa [(List.cons.inj heq).2]

theorem parse_congr {text text' : List Glyph} {p : Point} (sees : ∀ run ∈ lexings text, Sees text text' run)
    (h : parse text = .invalid p) : parse text' = .invalid p := by
  have hshares : ∀ x ∈ Front.initial.wholes, x.Shares [] text text' := by
    intro x hx
    obtain rfl : x = ⟨[], .origin⟩ := by simpa [Front.wholes, Front.initial] using hx
    exact ⟨[], text, text', rfl, rfl, rfl⟩
  have hinhabited : Front.initial.readings ≠ [] := List.cons_ne_nil _ _
  exact sweep_congr (List.nil_append text).symm (List.nil_append text').symm (Front.initial_sound text) hinhabited
    hshares sees h

end Numscript.Parser
