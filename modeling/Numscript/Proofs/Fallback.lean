import Numscript.Proofs.Automaton.Follow
import Numscript.Proofs.Lexer.Keyword
import Numscript.Proofs.Lexer.Maximal
import Numscript.Proofs.Trace.Course

/-!
# The last resort of the lexer

Where the mode of a state finds no token, every token is tried, and if there is none of any kind, text is
passed over until one starts. This never helps a parse: the state has no entry for what is found so. A
parser that is told nothing but what the modes find themselves comes to the same result on every text.

`parseWith` is the parser over any way to read a token. The results of two ways are the same if they differ
in tokens only that no action is taken on.
-/
namespace Numscript

open Automaton (mode? action? entries successor?)

/-- The symbol that a report of a token stands for. -/
def Trace.symbolOf : Option Terminal → Symbol
  | some t => .terminal t
  | none => .error

namespace Lexer

/-- The token that a mode finds at a point itself. -/
def ownToken? (mode : Nat) (p : Point) (text : List Glyph) : Option Token :=
  (run mode p text).token? text

/-- A token that only the error mode finds is one that the state takes no action on. -/
theorem action?_of_fallback {q mode : Nat} (hmode : mode? q = some mode) {p : Point}
    {text : List Glyph} (hown : ownToken? mode p text = none) {token : Token}
    (hread : lookahead? mode p text = some token) : action? q token.kind = none := by
  by_cases hq : q = Automaton.recovery
  · -- in this state the mode is the error mode, so that nothing was read at all
    subst hq
    obtain rfl : errorMode = mode := Option.some.inj hmode
    rw [ownToken?] at hown
    rw [lookahead?, hown] at hread
    cases hread
  by_contra hacts
  rw [← ne_eq, Option.ne_none_iff_isSome, ← Automaton.acts_eq_isSome hq] at hacts
  obtain ⟨s, hs, rfl⟩ := Option.map_eq_some_iff.1 hmode
  have hexpects := Automaton.State.expects_of_finds (Automaton.finds_of_acts hs hacts)
  have hfinds := finds_of_lookahead? (isMode_of_mode? hmode) hread hexpects
  rw [ownToken?, run_of_finds (isMode_of_mode? hmode) hfinds] at hown
  cases hown

end Lexer

namespace Trace

/-- The last report on reading a token says what was found. -/
theorem exists_lookahead (mode : Nat) (p : Point) (text : List Glyph) : ∃ size,
    (tokenEvents mode p text).1.getLast? =
      some (.lookahead ((Lexer.lookahead? mode p text).map (·.kind)) size) := by
  simp only [tokenEvents, Lexer.lookahead?]
  cases (Lexer.run mode p text).token? text with
  | some t => exact ⟨_, List.getLast?_concat⟩
  | none =>
    simp only [Option.none_or]
    cases (Lexer.run Lexer.errorMode p text).token? text with
    | some t => exact ⟨_, List.getLast?_concat⟩
    | none => exact ⟨_, List.getLast?_concat⟩

end Trace

namespace Automaton

theorem error_not_mem_entries (q : Nat) : Symbol.errorIndex ∉ (entries q).map (·.1) := by
  have hterminal : ∀ t ∈ Terminal.all, t.index ≠ Symbol.errorIndex := by decide
  have hnonterminal : ∀ n ∈ Nonterminal.all, n.index ≠ Symbol.errorIndex := by decide
  intro h
  obtain ⟨e, he, heq⟩ := List.mem_map.1 h
  rcases List.mem_append.1 he with he | he
  · obtain ⟨t, ht, hnext⟩ := List.mem_filterMap.1 he
    obtain ⟨next, _, rfl⟩ := Option.map_eq_some_iff.1 hnext
    exact hterminal t ht heq
  · obtain ⟨n, hn, hnext⟩ := List.mem_filterMap.1 he
    obtain ⟨next, _, rfl⟩ := Option.map_eq_some_iff.1 hnext
    exact hnonterminal n hn heq

theorem successor?_of_mem_entries {q : Nat} {t : Terminal}
    (h : t.index ∈ (entries q).map (·.1)) : (successor? q t).isSome = true := by
  have hapart : ∀ n ∈ Nonterminal.all, ∀ t ∈ Terminal.all, n.index ≠ t.index := by decide
  obtain ⟨e, he, heq⟩ := List.mem_map.1 h
  rcases List.mem_append.1 he with he | he
  · obtain ⟨t', _, hnext⟩ := List.mem_filterMap.1 he
    obtain ⟨next, hsucc, rfl⟩ := Option.map_eq_some_iff.1 hnext
    obtain rfl := Terminal.index_injective heq
    rw [hsucc]
    rfl
  · obtain ⟨n, hn, hnext⟩ := List.mem_filterMap.1 he
    obtain ⟨next, _, rfl⟩ := Option.map_eq_some_iff.1 hnext
    exact absurd heq (hapart n hn t (Terminal.mem_all t))

end Automaton

/-- A state and its mode: what is read where the mode finds nothing is of no use to the state. -/
structure Hopeless (q mode : Nat) : Prop where
  /-- The token that the error mode finds is one that the state takes no action on. -/
  actions : ∀ p text, Lexer.ownToken? mode p text = none →
    ∀ token, Lexer.ownToken? Lexer.errorMode p text = some token → action? q token.kind = none
  /-- The state has no entry for whatever is reported, after text was passed over too. -/
  entries : ∀ p text, Lexer.ownToken? mode p text = none → ∃ kind size,
    (Trace.tokenEvents mode p text).1.getLast? = some (.lookahead kind size) ∧
      (Trace.symbolOf kind).index ∉ (entries q).map (·.1)

theorem hopeless_of_mode? {q mode : Nat} (h : mode? q = some mode) : Hopeless q mode where
  actions p text hown token hfound := by
    refine Lexer.action?_of_fallback h hown ?_
    rw [Lexer.lookahead?]
    rw [Lexer.ownToken?] at hown hfound
    rw [hown, hfound]
    rfl
  entries p text hown := by
    obtain ⟨size, hlast⟩ := Trace.exists_lookahead mode p text
    refine ⟨_, size, hlast, ?_⟩
    cases hread : Lexer.lookahead? mode p text with
    | none => exact Automaton.error_not_mem_entries q
    | some token =>
      have hnone := Lexer.action?_of_fallback h hown hread
      intro hmem
      have hsucc := Automaton.successor?_of_mem_entries hmem
      rw [Automaton.successor?, hnone] at hsucc
      cases hsucc

namespace Parser

/-- A way to read the token at a point in a mode. -/
abbrev Reader := (mode : Nat) → Point → List Glyph → Option Token

section
variable (read : Reader)

/-- What becomes of a stack at a point of the text when its next token is read in some way. -/
def advanceStackWith (below : Option Nat) (p : Point) (text : List Glyph) (stack : Stack) :
    List (Ending × Point) :=
  match stack.top? below with
  | none => [(.short, p)]
  | some q =>
    match (mode? q).bind fun mode => read mode p text with
    | none => [(.failed, p)]
    | some token =>
      (settle below token (reductionBound stack) stack).map fun e => (e, token.stop)

/-- What becomes of the readings at a point when they read a token in some way. -/
def endingsWith (below : Option Nat) (p : Point) (text : List Glyph) (readings : List Reading) :
    List (Ending × Point) :=
  readings.flatMap fun r =>
    if r.point = p then advanceStackWith read below p text r.stack else [(.pushed r.stack, r.point)]

/-- Reads one token in some way in every reading that stands at a point. -/
def advanceWith (p : Point) (text : List Glyph) : (spine : List Junction) →
    (readings : List Reading) → Progress
  | [], readings =>
    let endings := endingsWith read ground p text readings
    match accepted? endings with
    | some root => .accepted root
    | none => .alive (goOn [] endings)
  | j :: spine, readings =>
    let endings := endingsWith read none p text readings
    if isShort endings then advanceWith p text spine (j.lower readings)
    else .alive (goOn (j :: spine) endings)

/-- Moves over the text glyph by glyph, and reads tokens in some way. -/
def sweepWith (front : Front) (p : Point) : List Glyph → Result
  | [] =>
    match advanceWith read p [] front.spine front.readings with
    | .accepted root => .valid root
    | .alive _ => .invalid p
  | g :: rest =>
    if front.readings.any (·.point = p) then
      match advanceWith read p (g :: rest) front.spine front.readings with
      | .accepted root => .valid root
      | .alive next =>
        if next.readings.isEmpty then .invalid p else sweepWith next (p.after g) rest
    else sweepWith front (p.after g) rest

/-- Parses a text with a way to read its tokens. -/
def parseWith (text : List Glyph) : Result := sweepWith read Front.initial .origin text

end

theorem advanceWith_lookahead? (p : Point) (text : List Glyph) (spine : List Junction)
    (readings : List Reading) :
    advanceWith Lexer.lookahead? p text spine readings = advance p text spine readings := by
  induction spine generalizing readings with
  | nil => rfl
  | cons j spine ih =>
    rw [advanceWith, advance, ih]
    rfl

theorem sweepWith_lookahead? (front : Front) (p : Point) (text : List Glyph) :
    sweepWith Lexer.lookahead? front p text = sweep front p text := by
  induction text generalizing front p with
  | nil =>
    cases h : advance p [] front.spine front.readings <;>
      simp only [sweepWith, sweep, advanceWith_lookahead?, h]
  | cons g rest ih =>
    cases h : advance p (g :: rest) front.spine front.readings <;>
      simp only [sweepWith, sweep, advanceWith_lookahead?, h, ih]

theorem parseWith_lookahead? (text : List Glyph) : parseWith Lexer.lookahead? text = parse text :=
  sweepWith_lookahead? Front.initial .origin text

/-- Whether a token is none that a state takes an action on. -/
def Idle (q : Nat) (found : Option Token) : Prop := ∀ token ∈ found, action? q token.kind = none

/-- Two ways to read tell a state of the same token, or both of none that it takes an action on. -/
def Reader.Alike (read read' : Reader) : Prop :=
  ∀ q mode, mode? q = some mode → ∀ p text, read mode p text = read' mode p text ∨
    (Idle q (read mode p text) ∧ Idle q (read' mode p text))

/-- Endings that go on alike. -/
structure SameWay (a b : List (Ending × Point)) : Prop where
  alive : alive a = alive b
  accepted : accepted? a = accepted? b
  isShort : isShort a = isShort b

theorem SameWay.refl (a : List (Ending × Point)) : SameWay a a := ⟨rfl, rfl, rfl⟩

theorem SameWay.append {a b a' b' : List (Ending × Point)} (h : SameWay a b) (h' : SameWay a' b') :
    SameWay (a ++ a') (b ++ b') where
  alive := by rw [alive_append, alive_append, h.alive, h'.alive]
  accepted := by
    have haccepted := h.accepted
    have haccepted' := h'.accepted
    unfold accepted? at haccepted haccepted' ⊢
    rw [List.findSome?_append, List.findSome?_append, haccepted, haccepted']
  isShort := by
    have hshort := h.isShort
    have hshort' := h'.isShort
    unfold Parser.isShort at hshort hshort' ⊢
    rw [List.any_append, List.any_append, hshort, hshort']

/-- A token that the state on top takes no action on leads nowhere. -/
theorem settle_idle {below : Option Nat} {token : Token} {stack : Stack} {q : Nat}
    (top : stack.top? below = some q) (idle : action? q token.kind = none) (fuel : Nat) :
    settle below token fuel stack = [.failed] := by
  cases fuel with
  | zero => rfl
  | succ fuel => simp [settle, step, top, idle]

/-- Reading no token at all and reading one without an action come to the same. -/
theorem advanceStackWith_idle {read : Reader} {below : Option Nat} {p : Point} {text : List Glyph}
    {stack : Stack} {q mode : Nat} (top : stack.top? below = some q) (hmode : mode? q = some mode)
    (idle : Idle q (read mode p text)) :
    ∃ place, advanceStackWith read below p text stack = [(.failed, place)] := by
  rw [advanceStackWith, top]
  simp only [hmode, Option.bind_some]
  cases hread : read mode p text with
  | none => exact ⟨p, rfl⟩
  | some token =>
    simp only [settle_idle top (idle token hread)]
    exact ⟨token.stop, rfl⟩

section
variable {read read' : Reader}

theorem Reader.Alike.advanceStack (h : read.Alike read') (below : Option Nat) (p : Point)
    (text : List Glyph) (stack : Stack) :
    SameWay (advanceStackWith read below p text stack)
      (advanceStackWith read' below p text stack) := by
  cases top : stack.top? below with
  | none =>
    rw [advanceStackWith, advanceStackWith, top]
    exact .refl _
  | some q =>
    cases hmode : mode? q with
    | none =>
      rw [advanceStackWith, advanceStackWith, top]
      simp only [hmode, Option.bind_none]
      exact .refl _
    | some mode =>
      rcases h q mode hmode p text with heq | ⟨hidle, hidle'⟩
      · rw [advanceStackWith, advanceStackWith, top]
        simp only [hmode, Option.bind_some, heq]
        exact .refl _
      · obtain ⟨place, hfailed⟩ := advanceStackWith_idle top hmode hidle
        obtain ⟨place', hfailed'⟩ := advanceStackWith_idle top hmode hidle'
        rw [hfailed, hfailed']
        exact ⟨rfl, rfl, rfl⟩

theorem Reader.Alike.endings (h : read.Alike read') (below : Option Nat) (p : Point)
    (text : List Glyph) (readings : List Reading) :
    SameWay (endingsWith read below p text readings) (endingsWith read' below p text readings) := by
  induction readings with
  | nil => exact .refl _
  | cons r readings ih =>
    simp only [endingsWith, List.flatMap_cons] at ih ⊢
    refine SameWay.append ?_ ih
    split
    · exact h.advanceStack below p text r.stack
    · exact .refl _

theorem Reader.Alike.advance (h : read.Alike read') (p : Point) (text : List Glyph)
    (spine : List Junction) (readings : List Reading) :
    advanceWith read p text spine readings = advanceWith read' p text spine readings := by
  induction spine generalizing readings with
  | nil =>
    have hsame := h.endings ground p text readings
    simp only [advanceWith, goOn, hsame.alive, hsame.accepted]
  | cons j spine ih =>
    have hsame := h.endings none p text readings
    simp only [advanceWith, goOn, hsame.alive, hsame.isShort, ih]

theorem Reader.Alike.sweep (h : read.Alike read') (front : Front) (p : Point)
    (text : List Glyph) : sweepWith read front p text = sweepWith read' front p text := by
  induction text generalizing front p with
  | nil => rw [sweepWith, sweepWith, h.advance]
  | cons g rest ih =>
    rw [sweepWith, sweepWith, h.advance]
    simp only [ih]

end

theorem ownToken?_alike : Reader.Alike Lexer.ownToken? Lexer.lookahead? := by
  intro q mode hmode p text
  cases hown : Lexer.ownToken? mode p text with
  | some token =>
    left
    rw [Lexer.ownToken?] at hown
    rw [Lexer.lookahead?, hown, Option.some_or]
  | none =>
    exact .inr ⟨by rintro _ ⟨⟩, fun token hread => Lexer.action?_of_fallback hmode hown hread⟩

end Parser

/-- The error mode never rescues a parse: no state has any use for what is read where its own mode finds
nothing, and without it every text has the same tree, or its error at the same place. -/
theorem fallback_never_rescues :
    (∀ q mode, mode? q = some mode → Hopeless q mode) ∧
    ∀ bytes : List UInt8,
      Parser.parseWith Lexer.lookahead? (Glyph.ofBytes bytes) = Parser.parse (Glyph.ofBytes bytes) ∧
      Parser.parseWith Lexer.ownToken? (Glyph.ofBytes bytes) = Parser.parse (Glyph.ofBytes bytes) := by
  refine ⟨fun q mode h => hopeless_of_mode? h, fun bytes => ⟨Parser.parseWith_lookahead? _, ?_⟩⟩
  rw [← Parser.parseWith_lookahead?]
  exact Parser.ownToken?_alike.sweep _ _ _

/-- A number before the first statement: the mode of the first state finds nothing, the error mode finds
the number. -/
def strayNumber : List UInt8 := [0x35, 0x20]

theorem fallback_never_rescues_strayNumber :
    Lexer.ownToken? 130 .origin (Glyph.ofBytes strayNumber) = none ∧
    (Lexer.ownToken? Lexer.errorMode .origin (Glyph.ofBytes strayNumber)).map (·.kind) = some .number ∧
    action? 1 .number = none ∧
    Parser.parseWith Lexer.ownToken? (Glyph.ofBytes strayNumber) =
      Parser.parse (Glyph.ofBytes strayNumber) := by
  have hown : Lexer.ownToken? 130 .origin (Glyph.ofBytes strayNumber) = none := by decide +kernel
  have hread : (Lexer.ownToken? Lexer.errorMode .origin (Glyph.ofBytes strayNumber)).map (·.kind) =
      some .number := by decide +kernel
  obtain ⟨token, hfound, hkind⟩ := Option.map_eq_some_iff.1 hread
  have hhopeless := fallback_never_rescues.1 1 130 (by decide +kernel)
  refine ⟨hown, hread, ?_, (fallback_never_rescues.2 strayNumber).2⟩
  rw [← hkind]
  exact hhopeless.actions _ _ hown token hfound

end Numscript
