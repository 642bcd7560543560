import Numscript.Proofs.Lexer.Elsewhere
import Numscript.Proofs.Parser.Closing
import Numscript.Proofs.Parser.Continue

/-!
# Runs over two programs

A run over a program is repeated behind another program that a line feed ends. Before the first token of the
second program that is no comment, the stack of the first program waits; that token completes it. Each token
is found as it was, since the run is inside the same statement, or where a statement may begin.
-/
namespace Numscript.Parser

open Automaton (acts mode? start walk programWords closers closingModes firstMode)

variable {origin : Point} {first : List Tree}

/-- The stack of a run over the second program, and that of the run over both programs. -/
def Trails (origin : Point) (first : List Tree) (s s' : Stack) : Prop :=
  s.forest = [] ∧ Closes first s'.forest ∨ Continues origin first s.forest s'.forest

theorem Closes.acts {s : Stack} (h : Closes first s.forest) (hv : Viable s) :
    ∀ t ∈ closers, Automaton.acts s.state t = true := by
  have hwalk := hv.walk_forest
  generalize s.forest = forest at h hwalk
  intro t ht
  cases h with
  | between word => exact (Automaton.begins_of_walk word hwalk t).closes ht
  | reduce _ asks => simp [Automaton.acts, asks _ hwalk t ht]

/-- The states of both runs are the same, or both are such that a statement may begin. -/
inductive Abreast (token : Terminal) (q q' : Nat) : Prop where
  | same (h : q' = q)
  | comment (h : token.isComment = true)
  | closing (kind : token ∈ closers) (own : ∀ t ∈ closers, acts q t = true)
      (joined : ∀ t ∈ closers, acts q' t = true) (begun : q' = start → q = start)

theorem Viable.forest_of_start {s : Stack} (hv : Viable s) (h : s.state = start) : s.forest = [] :=
  Tree.siftedAll_of_comments (by simpa using hv.comments_of_start h)

theorem Trails.abreast {s s' : Stack} {token : Token} {e : Ending} (h : Trails origin first s s')
    (hv : Viable s) (hv' : Viable s') (hs : Settles token s e) (noVars : token.kind ≠ .kwVars) :
    Abreast token.kind s.state s'.state := by
  have hwalk := hv.walk_forest
  have hwalk' := hv'.walk_forest
  have hbegin : s'.state = start → s'.forest = [] := hv'.forest_of_start
  rcases h with ⟨hs₀, hcloses⟩ | h
  · rw [hs₀] at hwalk
    have hacts := Automaton.begins_of_walk Automaton.nil_mem_programWords hwalk
    rcases (hacts _).reads hs.acts with hc | hvars | hclose
    · exact .comment hc
    · exact absurd hvars noVars
    · exact .closing hclose (fun t => (hacts t).closes) (hcloses.acts hv') fun _ =>
        (Option.some.inj hwalk).symm
  · generalize hforest : s.forest = forest at h
    generalize hforest' : s'.forest = forest' at h
    cases h with
    | @inner own joined upper joins begins =>
      cases upper with
      | cons u upper => exact .same (joins.state_eq (begins u rfl) hv hv' hforest hforest')
      | nil =>
        rw [List.append_nil] at hforest
        rw [List.map_nil, List.append_nil] at hforest'
        rw [hforest] at hwalk
        rw [hforest'] at hwalk' hbegin
        have hacts := Automaton.begins_of_walk joins.ownWord hwalk
        have hacts' := Automaton.begins_of_walk joins.word hwalk'
        rcases (hacts _).reads hs.acts with hc | hvars | hclose
        · exact .comment hc
        · exact absurd hvars noVars
        · refine .closing hclose (fun t => (hacts t).closes)
            (fun t => (hacts' t).closes) fun hq => ?_
          rw [joins.begun (hbegin hq)] at hwalk
          exact (Option.some.inj hwalk).symm
    | @closed own joined t joins isStatement =>
      rw [hforest, List.map_append, List.map_singleton, isStatement] at hwalk
      rw [hforest'] at hbegin
      rw [hforest', List.map_append, List.map_singleton, Tree.symbol_moved, isStatement] at hwalk'
      have hacts := Automaton.ended_of_walk joins.ownWord hwalk
      have hacts' := Automaton.ended_of_walk joins.word hwalk'
      rcases (hacts _).reads hs.acts with hc | hclose
      · exact .comment hc
      · refine .closing hclose (fun t => (hacts t).closes)
          (fun t => (hacts' t).closes) fun hq => ?_
        exact absurd (hbegin hq) (by simp)
    | whole =>
      rw [hforest] at hwalk
      rw [hforest'] at hwalk'
      exact .same (Option.some.inj ((hwalk'.symm.trans walk_program).trans
        (hwalk.symm.trans walk_program).symm))

/-- A token is found by the mode of the other state as well. -/
theorem Abreast.finds {q q' : Nat} {token : Token} (h : Abreast token.kind q q')
    {s' : Stack} (hs' : s'.state = q') (hv' : Viable s') {mode : Nat} (hmode : mode? q = some mode)
    (hq : q < Automaton.stateCount) {p : Point} {text : List Glyph}
    (finds : Lexer.Finds mode p text token) : ∃ mode', mode? q' = some mode' ∧ Lexer.IsMode mode' ∧
      Lexer.Finds mode' p text token := by
  obtain ⟨mode', hmode', ismode'⟩ := hv'.isMode
  rw [hs'] at hmode'
  refine ⟨mode', hmode', ismode', ?_⟩
  cases h with
  | same h =>
    obtain rfl := h
    obtain rfl := Option.some.inj (hmode.symm.trans hmode')
    exact finds
  | comment h => exact finds.comment h
  | closing kind own joined begun =>
    have hsend : Terminal.kwSend ∈ closers := by decide
    obtain ⟨hmem, hfirst⟩ := Automaton.mode?_of_closing q (List.mem_range.2 hq) (own _ hsend) mode hmode
    obtain ⟨hmem', hfirst'⟩ := Automaton.mode?_of_closing q' (List.mem_range.2 (hs' ▸ hv'.state_lt))
      (joined _ hsend) mode' hmode'
    obtain ⟨s, hstate, rfl⟩ := Option.map_eq_some_iff.1 hmode'
    have hexpects := Automaton.State.expects_of_finds
      (Automaton.finds_of_acts hstate (joined _ kind))
    by_cases hend : token.kind = .endOfText
    · rw [if_pos hend] at hexpects
      have hover := finds.over_iff.1 hend
      rw [finds.eq_of_over hover]
      exact .ends hover hexpects
    · rw [if_neg hend] at hexpects
      exact finds.also hend hexpects (Automaton.alike_of_closing mode hmem s.mode hmem'
        (fun h => hfirst.2 (begun (hfirst'.1 h))) _ kind hend)

/-- What a token makes of both stacks. -/
inductive Ending.Trails (origin : Point) (first : List Tree) : Ending → Ending → Prop where
  | pushed {s s' : Stack} (h : Parser.Trails origin first s s') :
      Ending.Trails origin first (.pushed s) (.pushed s')
  | accepted {root root' : Tree} {own joined : List Tree} (h : Joins origin first own joined)
      (sifted : root.sifted = .node .program .plain own)
      (sifted' : root'.sifted = .node .program .plain joined) :
      Ending.Trails origin first (.accepted root) (.accepted root')

theorem Ending.Continues.trails {e e' : Ending} (h : Ending.Continues origin first e e') :
    Ending.Trails origin first e e' := by
  cases h with
  | pushed h => exact .pushed (.inr h)
  | accepted h sifted sifted' => exact .accepted h sifted sifted'

/-- What a token makes of the stack of the second program, it makes of the stack of both. -/
theorem Settles.trails {token : Token} {s s' : Stack} {e : Ending} (hs : Settles token s e)
    (h : Trails origin first s s') (hv : Viable s) (hv' : Viable s') (noVars : token.kind ≠ .kwVars) :
    ∃ e', Settles (token.moved origin) s' e' ∧ Ending.Trails origin first e e' := by
  rcases h with ⟨hempty, hcloses⟩ | h
  · cases hc : token.kind.isComment with
    | true =>
      have hpass : e = .pushed (⟨s.state, .leaf token⟩ :: s) := by
        cases hs with
        | pass => rfl
        | shift plain | reduce plain => simp [hc] at plain
        | accept _ kind =>
          rw [kind] at hc
          cases hc
      subst hpass
      refine ⟨_, .pass hc, .pushed (.inl ?_)⟩
      have hc' : (token.moved origin).kind.isComment = true := hc
      rw [Stack.forest_comment hc, Stack.forest_comment hc']
      exact ⟨hempty, hcloses⟩
    | false =>
      have hwalk := hv.walk_forest
      rw [hempty] at hwalk
      have hbegins := Automaton.begins_of_walk Automaton.nil_mem_programWords hwalk token.kind
      have hkind := ((hbegins.reads hs.acts).resolve_left
        (by simp [hc])).resolve_left noVars
      obtain ⟨t, ht, word, same, hsettles⟩ := @Closes.settles _ _ hcloses hv' (token.moved origin) hc hkind
      have hjoins : Joins origin first [] t.forest := ⟨.inl rfl, word, fun _ => rfl, by
        simpa [Tree.unrolledAll] using same⟩
      have hcontinues := @Continues.inner origin first _ _ [] hjoins nofun
      rw [List.map_nil, List.append_nil, List.append_nil, ← hempty] at hcontinues
      obtain ⟨e', he', hends⟩ := hs.continues hcontinues hv ht noVars
      exact ⟨e', hsettles e' he', hends.trails⟩
  · obtain ⟨e', he', hends⟩ := hs.continues h hv hv' noVars
    exact ⟨e', he', hends.trails⟩

/-! ### Runs -/

/-- A run is the same where the text behind it parts at a line feed. -/
theorem Reads.parted {text before rest rest' : List Glyph} {tokens : List Token} {r : Reading}
    (h : Reads text tokens r) (split : text = before ++ rest) (place : r.point = Point.origin.behind before)
    (parts : Lexer.Parts rest rest') (noStar : r.stack.BehindSlash → rest'.head? ≠ some Lexer.star) :
    Reads (before ++ rest') tokens r := by
  induction h generalizing before rest rest' with
  | start =>
    obtain rfl := Point.eq_nil_of_origin place
    exact .start
  | @push tokens r before₁ rest₁ token stack reached split₁ place₁ read pushes ih =>
    have hv := reached.viable
    have hsettles := (Ends.pushed pushes).settles hv
    obtain ⟨word, behind, hrest, hlexeme, hstart, hstop⟩ := hv.exists_word read pushes
    have hgap := @isGap_lead before₁ rest₁
    rw [← place₁] at hgap
    generalize Lexer.lead r.point rest₁ = lead at hgap hrest hstart hstop
    have hrest₁ : rest₁ = lead ++ (word ++ behind) := by rw [hrest, List.append_assoc]
    have hstop' : token.stop = Point.origin.behind (before₁ ++ lead ++ word) := by
      rw [hstop, place₁, ← Point.behind_append, List.append_assoc]
    obtain ⟨mode, hmode, ismode, munch⟩ :=
      hv.munch_of_push place₁ (hrest₁ ▸ read) hsettles hgap hlexeme hstop'
    have hbefore : before₁ ++ lead ++ word = before ∧ behind = rest := by
      refine Point.eq_of_behind ?_ (hstop'.symm.trans place)
      rw [← split, split₁, hrest₁]
      simp
    obtain ⟨rfl, rfl⟩ := hbefore
    have hmunch := munch.of_parts parts fun hslash => noStar (by
      obtain ⟨u, next, _, _, rfl, _⟩ := hv.exists_push pushes
      exact ⟨⟨next, .leaf token⟩, rfl, congrArg Symbol.terminal hslash⟩)
    have hfinds := hgap.finds hmunch
    rw [← place₁, ← hstop'] at hfinds
    rw [Point.behind_append, ← place₁, ← hstart] at hfinds
    have hread := Reading.token?_of_finds hmode ismode hfinds
    have hfront : rest₁.head? = (lead ++ (word ++ rest')).head? := by
      obtain ⟨g, tail, rfl⟩ := List.exists_cons_of_ne_nil (Lexer.ne_nil_of_isLexeme hlexeme)
      rw [hrest₁]
      cases lead <;> rfl
    have hreached := ih split₁ place₁ (hrest₁ ▸ (parts.append word).append lead)
      fun hslash => hfront ▸ hv.head?_ne_star hslash read hsettles
    rw [← List.append_assoc, ← List.append_assoc] at hreached
    refine .push hreached ?_ place₁ hread pushes
    simp

/-- A run is the same where a line feed and another text stand behind its text. -/
theorem Reads.lengthen {text before rest : List Glyph} {tokens : List Token} {r : Reading}
    (h : Reads text tokens r) (more : List Glyph) (split : text = before ++ rest)
    (place : r.point = Point.origin.behind before)
    (noStar : r.stack.BehindSlash → rest.head? ≠ some Lexer.star) :
    Reads (text ++ .lineFeed :: more) tokens r := by
  rw [split, List.append_assoc]
  refine h.parted split place (.inr ⟨rest, [], more, by simp, rfl⟩) fun hslash => ?_
  have hstar := noStar hslash
  cases rest with
  | nil => exact fun h => absurd (Option.some.inj h) (by decide)
  | cons g rest => exact hstar

/-- A run over both texts that has come to where a run over the second text stands. -/
structure Follows (text more : List Glyph) (first : List Tree) (front : List Token) (tokens : List Token)
    (before : List Glyph) (s : Stack) (r' : Reading) : Prop where
  reads : Reads (text ++ .lineFeed :: more)
    (front ++ tokens.map (·.moved (Point.origin.behind (text ++ [.lineFeed])))) r'
  place : ∃ passed gap, r'.point = Point.origin.behind passed ∧
    passed ++ gap = text ++ .lineFeed :: before ∧ IsGap passed gap
  trails : Trails (Point.origin.behind (text ++ [.lineFeed])) first s r'.stack

theorem behind_lineFeed (text w : List Glyph) : Point.origin.behind (text ++ .lineFeed :: w) =
    (Point.origin.behind w).moved (Point.origin.behind (text ++ [.lineFeed])) := by
  have hsplit : text ++ .lineFeed :: w = (text ++ [.lineFeed]) ++ w := by simp
  have hfresh : (Point.origin.behind (text ++ [.lineFeed])).column = 0 := by
    rw [Point.behind_append]
    rfl
  rw [hsplit, Point.behind_append, Point.behind_moved hfresh]

/-- What a reading of the second text goes on with, that of both texts goes on with. -/
theorem Follows.does {text more before rest : List Glyph} {first : List Tree} {front tokens : List Token}
    {r r' : Reading} {token : Token} {e : Ending} (h : Follows text more first front tokens before r.stack r')
    (split : more = before ++ rest) (place : r.point = Point.origin.behind before)
    (does : r.Does rest token e) (unmarked : more.head? ≠ some .byteOrderMark)
    (noVars : token.kind ≠ .kwVars) : ∃ passed behind e',
      text ++ .lineFeed :: more = passed ++ behind ∧ r'.point = Point.origin.behind passed ∧
      r'.Does behind (token.moved (Point.origin.behind (text ++ [.lineFeed]))) e' ∧
      Ending.Trails (Point.origin.behind (text ++ [.lineFeed])) first e e' := by
  obtain ⟨passed, gap, hplace, hpassed, hgap⟩ := h.place
  have hv' := h.reads.viable
  obtain ⟨mode, hmode, ismode, hfinds⟩ := does.finds
  have habreast := h.trails.abreast does.viable hv' does.settles noVars
  obtain ⟨mode', hmode', ismode', hfinds'⟩ :=
    habreast.finds rfl hv' hmode does.viable.state_lt hfinds
  rw [place] at hfinds'
  have hbehind := hfinds'.behind hgap (fun hnil => by rwa [split, hnil] at unmarked) fun w => by
    rw [hpassed, List.append_assoc, List.cons_append, behind_lineFeed]
  rw [← hplace] at hbehind
  obtain ⟨e', hsettles', hends⟩ := does.settles.trails h.trails does.viable hv' noVars
  refine ⟨passed, gap ++ rest, e', ?_, hplace,
    ⟨hv', Reading.token?_of_finds hmode' ismode' hbehind, hsettles'⟩, hends⟩
  rw [← List.append_assoc, hpassed, split]
  simp

/-- A run over a program is repeated behind another program. -/
theorem Reads.follows {text more before rest : List Glyph} {first : List Tree} {front tokens : List Token}
    {r : Reading} (h : Reads more tokens r) {r₀ : Reading} (start : Follows text more first front [] [] [] r₀)
    (split : more = before ++ rest) (place : r.point = Point.origin.behind before)
    (unmarked : more.head? ≠ some .byteOrderMark) (noVars : ∀ t ∈ tokens, t.kind ≠ .kwVars) :
    ∃ r', Follows text more first front tokens before r.stack r' := by
  induction h generalizing before rest with
  | start =>
    obtain rfl := Point.eq_nil_of_origin place
    exact ⟨r₀, start⟩
  | @push tokens r before₁ rest₁ token stack reached split₁ place₁ read pushes ih =>
    rw [List.forall_mem_append] at noVars
    have hv := reached.viable
    have hsettles := (Ends.pushed pushes).settles hv
    obtain ⟨r', hfollows⟩ := ih split₁ place₁ noVars.1
    obtain ⟨passed, behind, e', hsplit, hplace, hdoes, hends⟩ := hfollows.does split₁ place₁
      ⟨hv, read, hsettles⟩ unmarked (noVars.2 token (List.mem_singleton.2 rfl))
    cases hends with
    | @pushed _ stack' htrails =>
      cases hdoes.settles.ends hdoes.viable with
      | pushed pushes' =>
        have hpush := Reads.push hfollows.reads hsplit hplace hdoes.read pushes'
        refine ⟨⟨stack', (token.moved (Point.origin.behind (text ++ [.lineFeed]))).stop⟩, ?_,
          ⟨text ++ .lineFeed :: before, [], ?_, List.append_nil _, [], [], rfl, nofun, .inl rfl⟩, htrails⟩
        · simpa using hpush
        · rw [behind_lineFeed text before, ← place]
          rfl

end Numscript.Parser
