import Numscript.Parser.Parse
import Numscript.Proofs.Parser.Termination
import Numscript.Trace.Log

/-!
# The course of a log

A log reports one token after another. `Makes` says what is reported on a single token, and which ending
the stack comes to with it; there is none where two readings begin. `Goes` puts these turns together: it
follows a log from one place where a token is read to the next one, without the glyphs in between. As
long as there is a single reading, a sweep over the text goes along.
-/
namespace Numscript.Trace

open Numscript.Parser (Stack Reading Front Ending Pushes Completes Reaches Viable step ground settle sweep)
open Automaton (action? mode?)

theorem tokenEvents_snd (mode : Nat) (p : Point) (text : List Glyph) :
    (tokenEvents mode p text).2 = Lexer.lookahead? mode p text := by
  simp only [tokenEvents, Lexer.lookahead?]
  cases (Lexer.run mode p text).token? text with
  | some t => rfl
  | none =>
    simp only [Option.none_or]
    cases (Lexer.run Lexer.errorMode p text).token? text with
    | some t => rfl
    | none => rfl

/-- What is reported on a token, and the ending that a stack comes to with it. -/
inductive Makes (token : Token) : Stack → List Event → Option Ending → Prop where
  | shift {s t : Stack} {q : Nat} (acts : action? s.state token.kind = some (.shift q))
      (pushed : step ground token s = .shifted t) : Makes token s [.shift q] (some (.pushed t))
  | pass {s t : Stack} (acts : action? s.state token.kind = some .pass)
      (pushed : step ground token s = .shifted t) : Makes token s [.shiftExtra] (some (.pushed t))
  | reduce {s t : Stack} {r : Automaton.Reduction} {events : List Event} {ending : Option Ending}
      (acts : action? s.state token.kind = some (.reduce r))
      (reduced : step ground token s = .reduced t) (later : Makes token t events ending) :
      Makes token s (.reduce r.phrase r.arity :: events) ending
  | conflict {s : Stack} {q : Nat} {r : Automaton.Reduction}
      (acts : action? s.state token.kind = some (.both q r)) :
      Makes token s [.reduce r.phrase r.arity, .shift q] none
  | accept {s : Stack} {root : Tree} (acts : action? s.state token.kind = some .accept)
      (accepted : step ground token s = .accepted root) :
      Makes token s [.accept] (some (.accepted root))
  | refuse {s : Stack} (acts : action? s.state token.kind = none) :
      Makes token s [.detectError] (some .failed)

/-- What the log takes an ending for. -/
def Outcome.ofEnding : Option Ending → Outcome
  | some (.pushed stack) => .pushed stack
  | some (.accepted _) => .accepted
  | some .failed | some .short => .stopped .error
  | none => .stopped .ambiguous

theorem exists_makes {token : Token} {s : Stack} (h : Viable s) {fuel : Nat}
    (enough : s.potential ≤ fuel) : ∃ ending,
      Makes token s (parserEvents token fuel s).1 ending ∧
        (parserEvents token fuel s).2 = Outcome.ofEnding ending := by
  induction fuel generalizing s with
  | zero =>
    have hpos := s.potential_pos
    omega
  | succ fuel ih =>
    simp only [parserEvents, Parser.Stack.top?_ground, Option.bind_some]
    cases acts : action? s.state token.kind with
    | none => exact ⟨_, .refuse acts, rfl⟩
    | some a =>
      cases a with
      | shift q =>
        have hstep : step ground token s = .shifted (⟨q, .leaf token⟩ :: s) := by simp [step, acts]
        rw [hstep]
        exact ⟨_, .shift acts hstep, rfl⟩
      | pass =>
        have hstep : step ground token s = .shifted (⟨s.state, .leaf token⟩ :: s) := by
          simp [step, acts]
        rw [hstep]
        exact ⟨_, .pass acts hstep, rfl⟩
      | reduce r =>
        obtain ⟨t, hreduce, _⟩ := h.reduce (Automaton.reduction?_of_asks (.inl acts))
        have hstep : step ground token s = .reduced t := by simpa [step, acts] using hreduce
        have hless := h.potential_lt_of_reduced (.inl hstep)
        obtain ⟨ending, hmakes, houtcome⟩ := ih (h.reduced hstep) (by omega)
        rw [hstep]
        exact ⟨ending, .reduce acts hstep hmakes, houtcome⟩
      | both q r =>
        obtain ⟨t, hreduce, _⟩ := h.reduce (Automaton.reduction?_of_asks (.inr ⟨q, acts⟩))
        have hstep : step ground token s = .forked (⟨q, .leaf token⟩ :: s) t := by
          simp [step, acts, hreduce]
        rw [hstep]
        exact ⟨_, .conflict acts, rfl⟩
      | accept =>
        obtain ⟨root, hroot⟩ := h.exists_root (Automaton.eq_final_of_accept acts).1
        have hstep : step ground token s = .accepted root := by
          simp only [step, Parser.Stack.top?_ground, acts, hroot]
          rfl
        rw [hstep]
        exact ⟨_, .accept acts hstep, rfl⟩
      | recover => exact absurd acts (Automaton.action?_ne_recover h.state_ne_recovery)

/-- How a stack comes to an ending in one step. -/
def Arrives (token : Token) (s : Stack) : Option Ending → Prop
  | some (.pushed t) => step ground token s = .shifted t
  | some (.accepted root) => step ground token s = .accepted root
  | some .failed | some .short => action? s.state token.kind = none
  | none => ∃ next r, action? s.state token.kind = some (.both next r)

theorem Makes.arrives {token : Token} {s : Stack} {events : List Event} {ending : Option Ending}
    (h : Makes token s events ending) : ∃ t, Completes token s t ∧ Arrives token t ending := by
  induction h with
  | shift _ pushed => exact ⟨_, .refl _, pushed⟩
  | pass _ pushed => exact ⟨_, .refl _, pushed⟩
  | reduce _ reduced _ ih =>
    obtain ⟨t, hcompletes, harrives⟩ := ih
    exact ⟨t, .reduce reduced hcompletes, harrives⟩
  | conflict acts => exact ⟨_, .refl _, _, _, acts⟩
  | accept _ accepted => exact ⟨_, .refl _, accepted⟩
  | refuse acts => exact ⟨_, .refl _, acts⟩

/-- Where a single ending is reported, all reductions lead to that one. -/
theorem Makes.settle_eq {token : Token} {s : Stack} {events : List Event} {ending : Ending}
    (h : Makes token s events (some ending)) (hv : Viable s) {fuel : Nat}
    (enough : s.potential ≤ fuel) : settle ground token fuel s = [ending] := by
  have hpos := s.potential_pos
  obtain ⟨fuel, rfl⟩ : ∃ n, fuel = n + 1 := ⟨fuel - 1, by omega⟩
  generalize hmaybe : some ending = maybe at h
  induction h generalizing fuel with
  | shift _ pushed | pass _ pushed =>
    cases hmaybe
    rw [settle, pushed]
  | @reduce s t _ _ _ _ reduced _ ih =>
    have hless := hv.potential_lt_of_reduced (.inl reduced)
    have hrest := t.potential_pos
    obtain ⟨fuel, rfl⟩ : ∃ n, fuel = n + 1 := ⟨fuel - 1, by omega⟩
    rw [settle, reduced]
    exact ih (hv.reduced reduced) hrest _ (by omega) hmaybe
  | conflict acts => cases hmaybe
  | accept _ accepted =>
    cases hmaybe
    rw [settle, accepted]
  | refuse acts =>
    cases hmaybe
    rw [settle]
    simp [step, acts]

theorem Makes.pushes {token : Token} {s t : Stack} {events : List Event}
    (h : Makes token s events (some (.pushed t))) : Pushes token s t := by
  obtain ⟨u, hcompletes, harrives⟩ := h.arrives
  exact .shift hcompletes harrives

theorem Makes.ne_short {token : Token} {s : Stack} {events : List Event} {ending : Option Ending}
    (h : Makes token s events ending) : ending ≠ some .short := by
  induction h with
  | reduce _ _ _ ih => exact ih
  | _ => nofun

/-- A stack that meets two actions on the way has no single ending. -/
theorem Makes.eq_none {token : Token} {s t : Stack} {events : List Event} {ending : Option Ending}
    (h : Makes token s events ending) (completes : Completes token s t) {next : Nat}
    {r : Automaton.Reduction} (both : action? t.state token.kind = some (.both next r)) :
    ending = none := by
  induction completes generalizing events with
  | refl =>
    cases h <;> simp_all
  | reduce hstep _ ih =>
    cases h with
    | reduce _ reduced later =>
      rw [hstep] at reduced
      cases reduced
      exact ih later both
    | conflict => rfl
    | shift _ pushed | pass _ pushed => cases hstep.symm.trans pushed
    | accept _ accepted => cases hstep.symm.trans accepted
    | refuse acts => simp [step, acts] at hstep
  | fork hstep _ _ =>
    cases h with
    | conflict => rfl
    | shift _ pushed | pass _ pushed => cases hstep.symm.trans pushed
    | reduce _ reduced _ => cases hstep.symm.trans reduced
    | accept _ accepted => cases hstep.symm.trans accepted
    | refuse acts => simp [step, acts] at hstep

/-- What is reported from a place on where a token is about to be read, up to what the parser does. -/
def report (mode : Nat) (stack : Stack) (p : Point) (text : List Glyph) (events : List Event) :
    List Event :=
  .process stack.state p :: ((tokenEvents mode p text).1 ++ events)

/--
How a log goes on from a place where a token is about to be read: it ends there, or it goes on behind the
token with the stack that has pushed it.
-/
inductive Goes : Stack → Point → List Glyph → List Event × Stop → Prop where
  | unread {stack : Stack} {p : Point} {text : List Glyph} {mode : Nat}
      (hmode : mode? stack.state = some mode) (read : (tokenEvents mode p text).2 = none) :
      Goes stack p text (report mode stack p text [.detectError], .error)
  | fails {stack : Stack} {p : Point} {text : List Glyph} {mode : Nat} {token : Token}
      {events : List Event} (hmode : mode? stack.state = some mode)
      (read : (tokenEvents mode p text).2 = some token)
      (makes : Makes token stack events (some .failed)) :
      Goes stack p text (report mode stack p text events, .error)
  | divides {stack : Stack} {p : Point} {text : List Glyph} {mode : Nat} {token : Token}
      {events : List Event} (hmode : mode? stack.state = some mode)
      (read : (tokenEvents mode p text).2 = some token) (makes : Makes token stack events none) :
      Goes stack p text (report mode stack p text events, .ambiguous)
  | accepts {stack : Stack} {p : Point} {text : List Glyph} {mode : Nat} {token : Token}
      {events : List Event} {root : Tree} (hmode : mode? stack.state = some mode)
      (read : (tokenEvents mode p text).2 = some token)
      (makes : Makes token stack events (some (.accepted root))) :
      Goes stack p text
        (report mode stack p text events ++ [.done, .parsed (p.behind text).byte false], .done)
  | pushes {stack next : Stack} {p : Point} {word more : List Glyph} {mode : Nat} {token : Token}
      {events : List Event} {answer : List Event × Stop} (hmode : mode? stack.state = some mode)
      (read : (tokenEvents mode p (word ++ more)).2 = some token)
      (makes : Makes token stack events (some (.pushed next))) (some_ : word ≠ [])
      (stop : token.stop = p.behind word) (later : Goes next (p.behind word) more answer) :
      Goes stack p (word ++ more) (report mode stack p (word ++ more) events ++ answer.1, answer.2)

theorem behind_ne (p : Point) (g : Glyph) (word : List Glyph) : p.behind (g :: word) ≠ p := by
  intro heq
  have hbyte := Point.behind_byte p (g :: word)
  have hpos := g.size_pos
  rw [heq, Glyph.totalSize] at hbyte
  omega

/-- Up to the place where the next token is read, a log passes over the text. -/
theorem logFrom_behind (stack : Stack) (p : Point) (word more : List Glyph) :
    logFrom stack (p.behind word) p (word ++ more) =
      logFrom stack (p.behind word) (p.behind word) more := by
  induction word generalizing p with
  | nil => rfl
  | cons g word ih =>
    rw [List.cons_append, logFrom, if_neg (behind_ne p g word)]
    exact ih (p.after g)

theorem turn_unread {stack : Stack} {mode : Nat} (hmode : mode? stack.state = some mode) {p : Point}
    {text : List Glyph} (read : (tokenEvents mode p text).2 = none) :
    turn stack p text = ⟨report mode stack p text [.detectError], .stopped .error, p⟩ := by
  simp only [turn, Parser.Stack.top?_ground, Option.getD_some, hmode, read]
  rfl

theorem turn_read {stack : Stack} (h : Viable stack) {mode : Nat}
    (hmode : mode? stack.state = some mode) {p : Point} {text : List Glyph} {token : Token}
    (read : (tokenEvents mode p text).2 = some token) : ∃ events ending,
      Makes token stack events ending ∧
        turn stack p text = ⟨report mode stack p text events, .ofEnding ending, token.stop⟩ := by
  obtain ⟨ending, hmakes, houtcome⟩ := exists_makes h stack.potential_le
  refine ⟨_, ending, hmakes, ?_⟩
  simp only [turn, Parser.Stack.top?_ground, Option.getD_some, hmode, read, houtcome]
  rfl

theorem logFrom_here (stack : Stack) (p : Point) (text : List Glyph) : logFrom stack p p text =
    match (turn stack p text).outcome with
    | .accepted => ((turn stack p text).events ++ [.done, .parsed (p.behind text).byte false], .done)
    | .stopped why => ((turn stack p text).events, why)
    | .pushed next =>
      let later : List Event × Stop := match text with
        | [] => ([], .error)
        | g :: rest => logFrom next (turn stack p text).place (p.after g) rest
      ((turn stack p text).events ++ later.1, later.2) := by
  cases text with
  | nil => cases h : (turn stack p []).outcome <;> rw [logFrom] <;> simp [h, Point.behind]
  | cons g rest =>
    cases h : (turn stack p (g :: rest)).outcome <;> rw [logFrom, if_pos rfl] <;> simp only [h]

theorem token?_of_read {stack : Stack} {mode : Nat} (hmode : mode? stack.state = some mode) {p : Point}
    {text : List Glyph} {token : Token} (read : (tokenEvents mode p text).2 = some token) :
    (⟨stack, p⟩ : Reading).token? text = some token := by
  rw [tokenEvents_snd] at read
  simp [Reading.token?, hmode, read]

/-- The text behind a token that is pushed: the token is not empty. -/
theorem exists_word {stack next : Stack} (h : Viable stack) {mode : Nat}
    (hmode : mode? stack.state = some mode) {p : Point} {text : List Glyph} {token : Token}
    (read : (tokenEvents mode p text).2 = some token) (pushes : Pushes token stack next) :
    ∃ word more, text = word ++ more ∧ word ≠ [] ∧ token.stop = p.behind word := by
  obtain ⟨word, more, hsplit, hlexeme, _, hstop⟩ :=
    Viable.exists_word h (token?_of_read hmode read) pushes
  refine ⟨_, more, hsplit, fun hnil => ?_, hstop⟩
  exact Lexer.ne_nil_of_isLexeme hlexeme (List.append_eq_nil_iff.1 hnil).2

theorem goes_logFrom {stack : Stack} (h : Viable stack) (p : Point) (text : List Glyph) :
    Goes stack p text (logFrom stack p p text) := by
  obtain ⟨mode, hmode, _⟩ := h.isMode
  rw [logFrom_here]
  cases read : (tokenEvents mode p text).2 with
  | none =>
    rw [turn_unread hmode read]
    exact .unread hmode read
  | some token =>
    obtain ⟨events, ending, hmakes, hturn⟩ := turn_read h hmode read
    rw [hturn]
    rcases ending with _ | ending
    · exact .divides hmode read hmakes
    cases ending with
    | accepted root => exact .accepts hmode read hmakes
    | failed => exact .fails hmode read hmakes
    | short => exact absurd rfl hmakes.ne_short
    | pushed next =>
      obtain ⟨word, more, rfl, hword, hstop⟩ := exists_word h hmode read hmakes.pushes
      obtain ⟨g, word, rfl⟩ := List.exists_cons_of_ne_nil hword
      have hbehind : logFrom next token.stop (p.after g) (word ++ more) =
          logFrom next (p.behind (g :: word)) (p.behind (g :: word)) more := by
        rw [hstop]
        exact logFrom_behind next (p.after g) word more
      simp only [Outcome.ofEnding, List.cons_append, hbehind]
      exact .pushes hmode read hmakes hword hstop
        (goes_logFrom (h.pushes hmakes.pushes) (p.behind (g :: word)) more)
termination_by text.length

/-- The front of a single reading. -/
def alone (stack : Stack) (place : Point) : Front := ⟨[], [⟨stack, place⟩]⟩

theorem sweep_behind (stack : Stack) (p : Point) (word more : List Glyph) :
    sweep (alone stack (p.behind word)) p (word ++ more) =
      sweep (alone stack (p.behind word)) (p.behind word) more := by
  induction word generalizing p with
  | nil => rfl
  | cons g word ih =>
    have hne : p.behind (g :: word) ≠ p := behind_ne p g word
    rw [List.cons_append, sweep, if_neg (by simpa [alone] using hne)]
    exact ih (p.after g)

/-- What becomes of a single reading with its ending. -/
def progress (place : Point) : Ending → Parser.Progress
  | .pushed next => .alive (alone next place)
  | .accepted root => .accepted root
  | .failed | .short => .alive ⟨[], []⟩

/-- What becomes of a single reading without a token. -/
theorem advance_unread {stack : Stack} {mode : Nat} (hmode : mode? stack.state = some mode) {p : Point}
    {text : List Glyph} (read : (tokenEvents mode p text).2 = none) :
    Parser.advance p text [] [⟨stack, p⟩] = .alive ⟨[], []⟩ := by
  rw [tokenEvents_snd] at read
  simp only [Parser.advance, Parser.endingsAt, List.flatMap_cons, List.flatMap_nil, if_true,
    Parser.advanceStack, Parser.Stack.top?_ground, hmode, Option.bind_some, read]
  rfl

/-- What becomes of a single reading with a token. -/
theorem advance_read {stack : Stack} {mode : Nat} (hmode : mode? stack.state = some mode) {p : Point}
    {text : List Glyph} {token : Token} {events : List Event} {ending : Ending} (h : Viable stack)
    (read : (tokenEvents mode p text).2 = some token) (makes : Makes token stack events (some ending)) :
    Parser.advance p text [] [⟨stack, p⟩] = progress token.stop ending := by
  rw [tokenEvents_snd] at read
  simp only [Parser.advance, Parser.endingsAt, List.flatMap_cons, List.flatMap_nil, if_true,
    Parser.advanceStack, Parser.Stack.top?_ground, hmode, Option.bind_some, read,
    makes.settle_eq h stack.potential_le]
  cases ending <;>
    simp [Parser.accepted?, Parser.goOn, Parser.alive, Parser.dropRivals, Front.join, progress, alone]

theorem sweep_unread {stack : Stack} {p : Point} {text : List Glyph}
    (h : Parser.advance p text [] [⟨stack, p⟩] = .alive ⟨[], []⟩) :
    sweep (alone stack p) p text = .invalid p := by
  cases text with
  | nil => simp only [sweep, alone, h]
  | cons g rest => simp [sweep, alone, h]

theorem sweep_accepted {stack : Stack} {p : Point} {text : List Glyph} {root : Tree}
    (h : Parser.advance p text [] [⟨stack, p⟩] = .accepted root) :
    sweep (alone stack p) p text = .valid root := by
  cases text with
  | nil => simp only [sweep, alone, h]
  | cons g rest => simp [sweep, alone, h]

theorem sweep_pushed {stack next : Stack} {p : Point} {word more : List Glyph} (some_ : word ≠ [])
    (h : Parser.advance p (word ++ more) [] [⟨stack, p⟩] = .alive (alone next (p.behind word))) :
    sweep (alone stack p) p (word ++ more) =
      sweep (alone next (p.behind word)) (p.behind word) more := by
  obtain ⟨g, word, rfl⟩ := List.exists_cons_of_ne_nil some_
  have hgoes : sweep (alone stack p) p (g :: word ++ more) =
      sweep (alone next ((p.after g).behind word)) (p.after g) (word ++ more) := by
    rw [List.cons_append] at h
    rw [List.cons_append, sweep]
    simp [alone, h, Point.behind]
  rw [hgoes]
  exact sweep_behind next (p.after g) word more

/-- The places where tokens are about to be read. -/
def Event.place? : Event → Option Point
  | .process _ p => some p
  | _ => none

/-- The sizes of the tokens that were read, with what was passed over before them. -/
def Event.size? : Event → Option Nat
  | .lookahead _ size => some size
  | _ => none

/-- An event that tells neither a place nor a size. -/
def Event.IsQuiet (e : Event) : Prop := e.place? = none ∧ e.size? = none

theorem isQuiet_runEvents {r : Lexer.Run} {text : List Glyph} :
    ∀ e ∈ runEvents r text, e.IsQuiet := by
  simp only [runEvents, List.forall_mem_cons, List.forall_mem_append, List.forall_mem_map]
  exact ⟨⟨rfl, rfl⟩, fun _ _ => ⟨rfl, rfl⟩, fun _ _ => ⟨rfl, rfl⟩⟩

theorem Makes.isQuiet {token : Token} {s : Stack} {events : List Event} {ending : Option Ending}
    (h : Makes token s events ending) : ∀ e ∈ events, e.IsQuiet := by
  induction h with
  | reduce _ _ _ ih => exact List.forall_mem_cons.2 ⟨⟨rfl, rfl⟩, ih⟩
  | _ => simp [Event.IsQuiet, Event.place?, Event.size?]

theorem place?_resume (pass : Nat) (p : Point) (text : List Glyph) :
    ∀ e ∈ (resume pass p text).1, e.place? = none := by
  have hrun (r : Lexer.Run) (text : List Glyph) : ∀ e ∈ runEvents r text, e.place? = none :=
    fun e he => (isQuiet_runEvents e he).1
  induction text generalizing pass p with
  | nil => exact hrun _ _
  | cons g rest ih =>
    cases pass with
    | succ pass => exact ih pass (p.after g)
    | zero =>
      rw [resume]
      split
      · exact hrun _ _
      · simp only [List.forall_mem_append]
        refine ⟨⟨hrun _ _, ?_⟩, ih _ _⟩
        split
        · exact List.forall_mem_singleton.2 rfl
        · exact List.forall_mem_nil _

theorem place?_unrecognized (r : Lexer.Run) (text : List Glyph) :
    ∀ e ∈ (unrecognized r text).1, e.place? = none := by
  rw [unrecognized]
  split
  · exact List.forall_mem_singleton.2 rfl
  · simp only [List.cons_append, List.forall_mem_cons, List.forall_mem_append]
    refine ⟨rfl, ?_, place?_resume _ _ _⟩
    split
    · exact List.forall_mem_singleton.2 rfl
    · exact List.forall_mem_nil _

theorem place?_tokenEvents (mode : Nat) (p : Point) (text : List Glyph) :
    ∀ e ∈ (tokenEvents mode p text).1, e.place? = none := by
  have hrun (r : Lexer.Run) : ∀ e ∈ runEvents r text, e.place? = none :=
    fun e he => (isQuiet_runEvents e he).1
  rw [tokenEvents]
  split
  · simp only [List.forall_mem_append, List.forall_mem_singleton]
    exact ⟨hrun _, rfl⟩
  · dsimp only
    split
    · simp only [List.forall_mem_append, List.forall_mem_singleton]
      exact ⟨⟨hrun _, hrun _⟩, rfl⟩
    · simp only [List.forall_mem_append, List.forall_mem_singleton]
      exact ⟨⟨⟨hrun _, hrun _⟩, place?_unrecognized _ _⟩, rfl⟩

/-- A report tells a single place, the one where it begins. -/
theorem places_report (mode : Nat) (stack : Stack) (p : Point) (text : List Glyph)
    {events : List Event} (h : ∀ e ∈ events, e.place? = none) :
    (report mode stack p text events).filterMap Event.place? = [p] := by
  have hnone : ((tokenEvents mode p text).1 ++ events).filterMap Event.place? = [] :=
    List.filterMap_eq_nil_iff.2 (List.forall_mem_append.2 ⟨place?_tokenEvents mode p text, h⟩)
  simp only [report, List.filterMap_cons, Event.place?, hnone]

/-- A sweep goes along with a log that ends in an error: it ends at the place reported last. -/
theorem Goes.sweep_error {stack : Stack} {p : Point} {text : List Glyph} {answer : List Event × Stop}
    (h : Goes stack p text answer) (hv : Viable stack) (stops : answer.2 = .error) :
    ∃ place, sweep (alone stack p) p text = .invalid place ∧
      (answer.1.filterMap Event.place?).getLast? = some place := by
  induction h with
  | @unread stack p text mode hmode read =>
    refine ⟨p, sweep_unread (advance_unread hmode read), ?_⟩
    rw [places_report mode stack p text (List.forall_mem_singleton.2 rfl)]
    rfl
  | @fails stack p text mode token events hmode read makes =>
    refine ⟨p, sweep_unread (advance_read hmode hv read makes), ?_⟩
    rw [places_report mode stack p text fun e he => (makes.isQuiet e he).1]
    rfl
  | divides | accepts => cases stops
  | @pushes stack next p word more mode token events answer hmode read makes some_ stop _ ih =>
    obtain ⟨place, hsweep, hlast⟩ := ih (hv.pushes makes.pushes) stops
    refine ⟨place, ?_, ?_⟩
    · rw [sweep_pushed some_ (stop ▸ advance_read hmode hv read makes), hsweep]
    · rw [List.filterMap_append, List.getLast?_append, hlast, Option.some_or]

end Numscript.Trace
