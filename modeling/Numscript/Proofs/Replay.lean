import Mathlib.Algebra.GroupWithZero.Nat
import Numscript.Program
import Numscript.Proofs.Parser.Safety
import Numscript.Proofs.Parser.Sweep
import Numscript.Proofs.Text.Bytes
import Numscript.Proofs.Trace.Line

/-!
# Replaying a log

The log of a parse tells the parse: from its lines alone, and the table of the automaton, the tokens and the
tree are built again. `Replay.follow` does so line by line, and refuses a line that does not go with what it
has built so far: a place that is not the end of the last token, a state that is not on top of the stack, or
an action that the state does not take on the token.
-/
namespace Numscript

namespace Lexer

/-- A run stops behind the start and the end of the token that it has found. -/
structure Scan.Sensible (s : Scan) : Prop where
  start_le : s.start ≤ s.stop
  found_le : ∀ f ∈ s.found, f.2 ≤ s.stop

theorem sensible_scanFrom (q : Nat) {start here : Nat} {found : Option (Terminal × Nat)}
    (text : List Glyph) (hstart : start ≤ here) (hfound : ∀ f ∈ found, f.2 ≤ here) :
    (scanFrom q start here found text).Sensible := by
  induction text generalizing q start here found with
  | nil =>
    rw [scanFrom]
    refine ⟨hstart, fun f hf => ?_⟩
    split at hf
    · obtain rfl := Option.some.inj hf
      exact Nat.le_refl _
    · exact recognise_le q hfound f hf
  | cons g rest ih =>
    rw [scanFrom.eq_def]
    dsimp only
    split
    · exact ih q (Nat.le_refl _) fun f hf => Nat.le_succ_of_le (hfound f hf)
    · have hrecognise := recognise_le q hfound
      split
      · exact ⟨hstart, hrecognise⟩
      · split
        · exact ih _ (Nat.le_succ_of_le hstart) fun f hf => Nat.le_succ_of_le (hrecognise f hf)
        · exact ⟨hstart, hrecognise⟩
where
  recognise_le (q : Nat) {here : Nat} {found : Option (Terminal × Nat)}
      (hfound : ∀ f ∈ found, f.2 ≤ here) : ∀ f ∈ (state q).recognise here found, f.2 ≤ here := by
    intro f hf
    rw [State.recognise] at hf
    split at hf
    · obtain rfl := Option.some.inj hf
      exact Nat.le_refl _
    · exact hfound f hf

theorem sensible_run (mode : Nat) (p : Point) (text : List Glyph) :
    (run mode p text).scan.Sensible := by
  rw [run]
  split <;> exact sensible_scanFrom _ _ (Nat.le_refl _) (by simp)

end Lexer

namespace Trace

open Numscript.Parser (Stack Reading Completes Reaches Viable Configuration step ground sweep)
open Automaton (action? mode?)

/-- The glyphs at the start of a text that take no more than so many bytes. -/
def upTo : (size : Nat) → List Glyph → List Glyph
  | _, [] => []
  | size, g :: rest => if g.size ≤ size then g :: upTo (size - g.size) rest else []

theorem upTo_append (a b : List Glyph) : upTo (Glyph.totalSize a) (a ++ b) = a := by
  induction a with
  | nil =>
    cases b with
    | nil => rfl
    | cons g b =>
      have hpos := g.size_pos
      rw [List.nil_append, Glyph.totalSize, upTo, if_neg (by omega)]
  | cons g a ih =>
    rw [Glyph.totalSize, List.cons_append, upTo, if_pos (by omega), Nat.add_sub_cancel_left, ih]

/-- What is built from a log. -/
structure Replay where
  /-- The states and trees that are not put together yet. -/
  stack : Stack
  /-- Where the last token ended. -/
  place : Point
  /-- What the run of the lexer in progress has passed over. -/
  passed : List Glyph
  /-- What it has read behind that. -/
  taken : List Glyph
  /-- The token before the parser. -/
  token? : Option Token
  /-- The tree of the program when it is complete. -/
  root? : Option Tree

namespace Replay

/-- Before the first line. -/
def start : Replay := ⟨[], .origin, [], [], none, none⟩

/-- The token before the parser, if the state on top takes an action on it. -/
def takes (c : Replay) (a : Automaton.Action) : Option Token :=
  c.token?.filter fun token => action? c.stack.state token.kind = some a

/-- The replay with a token on its stack, and the state that is reached with it. -/
def push (c : Replay) (q : Nat) (token : Token) : Replay :=
  { c with stack := ⟨q, .leaf token⟩ :: c.stack, place := token.stop, token? := none }

/-- Makes the reduction on top of the stack that goes with a line. -/
def reduce (c : Replay) (phrase : Nonterminal) (arity : Nat) : Option Replay :=
  match c.token?.bind fun token => action? c.stack.state token.kind with
  | some (.reduce r) =>
    if r.phrase = phrase ∧ r.arity = arity then
      match Parser.reduce ground r c.stack with
      | .reduced stack => some { c with stack }
      | _ => none
    else none
  | _ => none

/-- Goes on with a line of the log. -/
def follow (c : Replay) : Event → Option Replay
  | .newParse => some c
  | .process q p => if q = c.stack.state ∧ p = c.place then some { c with token? := none } else none
  | .lexing mode p =>
    if p = c.place ∧ (mode? c.stack.state = some mode ∨ mode = Lexer.errorMode) then
      some { c with passed := [], taken := [] }
    else none
  | .skip g => some { c with passed := c.passed ++ [g] }
  | .consume g => some { c with taken := c.taken ++ [g] }
  | .lookahead (some kind) size =>
    some { c with token? := some ⟨kind, c.place.behind c.passed,
      c.place.behind (upTo size (c.passed ++ c.taken))⟩ }
  | .reduce phrase arity => c.reduce phrase arity
  | .shift q => (c.takes (.shift q)).map (c.push q)
  | .shiftExtra => (c.takes .pass).map (c.push c.stack.state)
  | .accept => (c.takes .accept).bind fun _ =>
    (Parser.root? c.stack).map fun root => { c with root? := some root }
  | .done | .parsed .. => c.root?.map fun _ => c
  | .lookahead none _ | .skipUnrecognized | .detectError => none

/-- Goes on with the lines of a log. -/
def run (c : Replay) (events : List Event) : Option Replay := events.foldlM follow c

@[simp] theorem run_nil (c : Replay) : c.run [] = some c := rfl

theorem run_cons (c : Replay) (e : Event) (events : List Event) :
    c.run (e :: events) = (c.follow e).bind fun d => d.run events := by
  rw [run, List.foldlM_cons]
  rfl

theorem run_append (c : Replay) (a b : List Event) :
    c.run (a ++ b) = (c.run a).bind fun d => d.run b := by
  rw [run, List.foldlM_append]
  rfl

theorem run_skip (c : Replay) (glyphs : List Glyph) :
    c.run (glyphs.map .skip) = some { c with passed := c.passed ++ glyphs } := by
  induction glyphs generalizing c with
  | nil => simp
  | cons g glyphs ih => simp [run_cons, follow, ih]

theorem run_consume (c : Replay) (glyphs : List Glyph) :
    c.run (glyphs.map .consume) = some { c with taken := c.taken ++ glyphs } := by
  induction glyphs generalizing c with
  | nil => simp
  | cons g glyphs ih => simp [run_cons, follow, ih]

/-- A run of the lexer that starts where the last token ended is told glyph by glyph. -/
theorem run_runEvents {c : Replay} {r : Lexer.Run} (text : List Glyph) (place : r.point = c.place)
    (mode : mode? c.stack.state = some r.mode ∨ r.mode = Lexer.errorMode) :
    c.run (runEvents r text) =
      some { c with passed := text.take r.lead, taken := (text.take r.length).drop r.lead } := by
  have hstart : c.follow (.lexing r.mode r.point) = some { c with passed := [], taken := [] } :=
    if_pos ⟨place, mode⟩
  rw [runEvents, run_cons, hstart, Option.bind_some, run_append, run_skip, Option.bind_some,
    run_consume]
  simp

/-- The token that a run has found is built from what was reported of the run. -/
theorem follow_lookahead {c : Replay} {mode : Nat} {p : Point} {text : List Glyph} {token : Token}
    (found : (Lexer.run mode p text).token? text = some token) (place : c.place = p)
    (passed : c.passed = text.take (Lexer.run mode p text).lead)
    (taken : c.taken = (text.take (Lexer.run mode p text).length).drop (Lexer.run mode p text).lead) :
    c.follow (.lookahead (some token.kind) (token.stop.byte - p.byte)) =
      some { c with token? := some token } := by
  obtain ⟨hstart, hfound⟩ := Lexer.sensible_run mode p text
  have hpoint := (Lexer.run_origin mode p text).1
  generalize Lexer.run mode p text = r at *
  obtain ⟨f, hf, rfl⟩ := Option.map_eq_some_iff.1 found
  have hle : r.marks + f.2 ≤ r.length := Nat.add_le_add_left (hfound f hf) _
  have hlead : r.lead ≤ r.length := Nat.add_le_add_left hstart _
  have hread : c.passed ++ c.taken =
      text.take (r.marks + f.2) ++ (text.take r.length).drop (r.marks + f.2) := by
    have htake (n : Nat) (hn : n ≤ r.length) : text.take n = (text.take r.length).take n := by
      rw [List.take_take, Nat.min_eq_left hn]
    rw [passed, taken, htake _ hlead, htake _ hle, List.take_append_drop, List.take_append_drop]
  have hsize : (r.point.behind (text.take (r.marks + f.2))).byte - p.byte =
      Glyph.totalSize (text.take (r.marks + f.2)) := by
    rw [Point.behind_byte, hpoint, Nat.add_sub_cancel_left]
  simp only [follow]
  rw [hread, hsize, upTo_append, passed, place, hpoint]

/-- A run that finds a token, and the report of the token. -/
theorem run_found {c : Replay} {mode : Nat} {p : Point} {text : List Glyph} {token : Token}
    (own : mode? c.stack.state = some mode ∨ mode = Lexer.errorMode) (place : c.place = p)
    (found : (Lexer.run mode p text).token? text = some token) : ∃ d : Replay,
      c.run (runEvents (Lexer.run mode p text) text ++
        [.lookahead (some token.kind) (token.stop.byte - p.byte)]) = some d ∧
      d.stack = c.stack ∧ d.place = p ∧ d.token? = some token := by
  obtain ⟨hpoint, hmode⟩ := Lexer.run_origin mode p text
  rw [run_append, run_runEvents text (hpoint.trans place.symm) (hmode.symm ▸ own), Option.bind_some,
    run_cons, follow_lookahead found]
  · exact ⟨_, rfl, rfl, place, rfl⟩
  · exact place
  · rfl
  · rfl

/-- The token that is read is built from what is reported on reading it. -/
theorem run_tokenEvents {c : Replay} {mode : Nat} {p : Point} {text : List Glyph} {token : Token}
    (hmode : mode? c.stack.state = some mode) (place : c.place = p)
    (read : (tokenEvents mode p text).2 = some token) : ∃ d : Replay,
      c.run (tokenEvents mode p text).1 = some d ∧
      d.stack = c.stack ∧ d.place = p ∧ d.token? = some token := by
  rw [tokenEvents] at read ⊢
  cases hown : (Lexer.run mode p text).token? text with
  | some t =>
    rw [hown] at read
    obtain rfl := Option.some.inj read
    exact run_found (.inl hmode) place hown
  | none =>
    rw [hown] at read
    dsimp only at read ⊢
    cases herror : (Lexer.run Lexer.errorMode p text).token? text with
    | none =>
      rw [herror] at read
      cases read
    | some t =>
      rw [herror] at read
      obtain rfl := Option.some.inj read
      obtain ⟨hpoint, hmode'⟩ := Lexer.run_origin mode p text
      have hfirst := run_runEvents text (hpoint.trans place.symm) (.inl (hmode'.symm ▸ hmode))
      dsimp only
      rw [List.append_assoc, run_append, hfirst, Option.bind_some]
      exact run_found (.inr rfl) place herror

/-- What is built when a stack comes to an ending. -/
def Reached (place : Point) (d : Replay) : Parser.Ending → Prop
  | .pushed next => d.stack = next ∧ d.place = place
  | .accepted root => d.root? = some root
  | .failed | .short => False

theorem takes_eq {c : Replay} {token : Token} {a : Automaton.Action} (told : c.token? = some token)
    (acts : action? c.stack.state token.kind = some a) : c.takes a = some token := by
  rw [takes, told, Option.filter_some, if_pos (decide_eq_true acts)]

/-- What the parser does is told by what is reported of it. -/
theorem run_makes {c : Replay} {s : Stack} {token : Token} {events : List Event}
    {ending : Parser.Ending} (h : Makes token s events (some ending)) (goes : ending ≠ .failed)
    (on : c.stack = s) (told : c.token? = some token) :
    ∃ d : Replay, c.run events = some d ∧ d.Reached token.stop ending := by
  generalize hmaybe : some ending = maybe at h
  induction h generalizing c with
  | @shift s t q acts pushed =>
    cases hmaybe
    obtain rfl : ⟨q, .leaf token⟩ :: s = t := by simpa [step, acts] using pushed
    subst on
    refine ⟨c.push q token, ?_, rfl, rfl⟩
    rw [run_cons, follow, takes_eq told acts]
    rfl
  | @pass s t acts pushed =>
    cases hmaybe
    obtain rfl : ⟨s.state, .leaf token⟩ :: s = t := by simpa [step, acts] using pushed
    subst on
    refine ⟨c.push c.stack.state token, ?_, rfl, rfl⟩
    rw [run_cons, follow, takes_eq told acts]
    rfl
  | @reduce s t r events _ acts reduced _ ih =>
    subst on
    have hreduce : Parser.reduce ground r c.stack = .reduced t := by simpa [step, acts] using reduced
    obtain ⟨d, hrun, hreached⟩ := @ih { c with stack := t } rfl told hmaybe
    refine ⟨d, ?_, hreached⟩
    have hfollow : c.follow (.reduce r.phrase r.arity) = some { c with stack := t } := by
      simp [follow, reduce, told, acts, hreduce]
    rw [run_cons, hfollow, Option.bind_some, hrun]
  | conflict => cases hmaybe
  | @accept s root acts accepted =>
    cases hmaybe
    subst on
    have hroot : Parser.root? c.stack = some root := by
      cases hroot : Parser.root? c.stack <;>
        simp only [step, Parser.Stack.top?_ground, acts, hroot] at accepted <;> cases accepted
      rfl
    refine ⟨{ c with root? := some root }, ?_, rfl⟩
    rw [run_cons, follow, takes_eq told acts, hroot]
    rfl
  | refuse =>
    cases hmaybe
    exact absurd rfl goes

end Replay

/-- A token that is read is built, and what the parser does with it. -/
theorem Replay.run_report {c : Replay} {stack : Stack} {mode : Nat} {p : Point} {text : List Glyph}
    {token : Token} {events : List Event} {ending : Parser.Ending}
    (hmode : mode? stack.state = some mode) (read : (tokenEvents mode p text).2 = some token)
    (makes : Makes token stack events (some ending)) (goes : ending ≠ .failed) (on : c.stack = stack)
    (place : c.place = p) : ∃ d : Replay,
      c.run (report mode stack p text events) = some d ∧ d.Reached token.stop ending := by
  subst on place
  have hprocess : c.follow (.process c.stack.state c.place) = some { c with token? := none } :=
    if_pos ⟨rfl, rfl⟩
  obtain ⟨d, hread, hstack, _, htoken⟩ :=
    @run_tokenEvents { c with token? := none } mode c.place text token hmode rfl read
  obtain ⟨e, hmakes, hreached⟩ := run_makes makes goes hstack htoken
  refine ⟨e, ?_, hreached⟩
  rw [report, run_cons, hprocess, Option.bind_some, run_append, hread, Option.bind_some, hmakes]

/-- What is built from a log that goes on to the end of a program: the tree that a sweep comes to. -/
theorem Goes.run_eq {stack : Stack} {p : Point} {text : List Glyph} {answer : List Event × Stop}
    (h : Goes stack p text answer) (hv : Viable stack) (stops : answer.2 = .done) {c : Replay}
    (on : c.stack = stack) (place : c.place = p) : ∃ d root,
      c.run answer.1 = some d ∧ d.root? = some root ∧ sweep (alone stack p) p text = .valid root := by
  induction h generalizing c with
  | unread | fails | divides => cases stops
  | @accepts stack p text mode token events root hmode read makes =>
    obtain ⟨d, hrun, hroot⟩ := Replay.run_report hmode read makes nofun on place
    refine ⟨d, root, ?_, hroot, sweep_accepted (advance_read hmode hv read makes)⟩
    have hdone : d.root? = some root := hroot
    rw [Replay.run_append, hrun, Option.bind_some]
    simp [Replay.run_cons, Replay.follow, hdone]
  | @pushes stack next p word more mode token events answer hmode read makes some_ stop _ ih =>
    obtain ⟨d, hrun, hstack, hplace⟩ := Replay.run_report hmode read makes nofun on place
    obtain ⟨e, root, hlater, hroot, hsweep⟩ :=
      ih (hv.pushes makes.pushes) stops hstack (hplace.trans stop)
    refine ⟨e, root, ?_, hroot, ?_⟩
    · rw [Replay.run_append, hrun, Option.bind_some, hlater]
    · rw [sweep_pushed some_ (stop ▸ advance_read hmode hv read makes), hsweep]

theorem sizes_tokenEvents {mode : Nat} {p : Point} {text : List Glyph} {token : Token}
    (read : (tokenEvents mode p text).2 = some token) :
    (tokenEvents mode p text).1.filterMap Event.size? = [token.stop.byte - p.byte] := by
  have hrun (r : Lexer.Run) : (runEvents r text).filterMap Event.size? = [] :=
    List.filterMap_eq_nil_iff.2 fun e he => (isQuiet_runEvents e he).2
  rw [tokenEvents] at read ⊢
  dsimp only at read ⊢
  split
  · next t hown =>
    rw [hown] at read
    obtain rfl := Option.some.inj read
    simp [hrun, Event.size?]
  · next hown =>
    rw [hown] at read
    dsimp only at read
    split
    · next t herror =>
      rw [herror] at read
      obtain rfl := Option.some.inj read
      simp [hrun, Event.size?]
    · next herror =>
      rw [herror] at read
      cases read

theorem sizes_report {stack : Stack} {mode : Nat} {p : Point} {text : List Glyph} {token : Token}
    {events : List Event} {ending : Option Parser.Ending}
    (read : (tokenEvents mode p text).2 = some token) (makes : Makes token stack events ending) :
    (report mode stack p text events).filterMap Event.size? = [token.stop.byte - p.byte] := by
  have hquiet : events.filterMap Event.size? = [] :=
    List.filterMap_eq_nil_iff.2 fun e he => (makes.isQuiet e he).2
  simp only [report, List.filterMap_cons, Event.size?, List.filterMap_append, sizes_tokenEvents read,
    hquiet, List.append_nil]

/-- A program is accepted at its end. -/
theorem Makes.stop_eq {stack : Stack} {mode : Nat} {p : Point} {text : List Glyph} {token : Token}
    {events : List Event} {root : Tree} (hv : Viable stack) (hmode : mode? stack.state = some mode)
    (read : (tokenEvents mode p text).2 = some token)
    (makes : Makes token stack events (some (.accepted root))) : token.stop = p.behind text := by
  have hkind : token.kind = .endOfText := by
    obtain ⟨u, hcompletes, haccepted⟩ := makes.arrives
    cases (hv.completes hcompletes).outcome_of_step haccepted with
    | accept _ kind => exact kind
  obtain ⟨hstart, ⟨_, hbody, hstop⟩ | ⟨w, _, _, hlexeme, _⟩⟩ := 
    Reading.token?_spec hv (token?_of_read hmode read)
  · have hlead := Lexer.lead_append_body p text
    rw [hbody, List.append_nil] at hlead
    rw [hstop, hstart, hlead]
  · rw [hkind] at hlexeme
    exact absurd hlexeme Lexer.not_isLexeme_endOfText

/-- The tokens and what stands before them make up the text. -/
theorem Goes.sizes_eq {stack : Stack} {p : Point} {text : List Glyph} {answer : List Event × Stop}
    (h : Goes stack p text answer) (hv : Viable stack) (stops : answer.2 = .done) :
    (answer.1.filterMap Event.size?).sum = Glyph.totalSize text := by
  induction h with
  | unread | fails | divides => cases stops
  | @accepts stack p text mode token events root hmode read makes =>
    have hstop := makes.stop_eq hv hmode read
    rw [List.filterMap_append, sizes_report read makes, hstop, Point.behind_byte,
      Nat.add_sub_cancel_left]
    rfl
  | @pushes stack next p word more mode token events answer hmode read makes some_ stop _ ih =>
    have hlater := ih (hv.pushes makes.pushes) stops
    rw [List.filterMap_append, sizes_report read makes, List.sum_append, hlater, stop,
      Point.behind_byte, Glyph.totalSize_append]
    simp

theorem Goes.getLast?_eq {stack : Stack} {p : Point} {text : List Glyph} {answer : List Event × Stop}
    (h : Goes stack p text answer) (stops : answer.2 = .done) :
    answer.1.getLast? = some (.parsed (p.behind text).byte false) := by
  induction h with
  | unread | fails | divides => cases stops
  | accepts => simp
  | pushes _ _ _ _ _ _ ih =>
    rw [List.getLast?_append, ih stops, Option.some_or, Point.behind_append]

/-- A state that takes two actions on a token that is read in some run. -/
def Meets (text : List Glyph) : Prop :=
  ∃ stack token next r, Configuration text stack token ∧
    action? stack.state token.kind = some (.both next r)

theorem Goes.meets {stack : Stack} {p : Point} {rest : List Glyph} {answer : List Event × Stop}
    (h : Goes stack p rest answer) {text before : List Glyph} (reached : Reaches text ⟨stack, p⟩)
    (split : text = before ++ rest) (place : p = Point.origin.behind before)
    (stops : answer.2 = .ambiguous) : Meets text := by
  induction h generalizing before with
  | unread | fails | accepts => cases stops
  | @divides stack p rest mode token events hmode read makes =>
    obtain ⟨t, hcompletes, next, r, hboth⟩ := makes.arrives
    exact ⟨t, token, next, r,
      ⟨reached, split, place, token?_of_read hmode read, hcompletes⟩, hboth⟩
  | @pushes stack next p word more mode token events answer hmode read makes some_ stop _ ih =>
    have hreached : Reaches text ⟨next, p.behind word⟩ :=
      stop ▸ .push reached split place (token?_of_read hmode read) makes.pushes
    refine @ih (before ++ word) hreached ?_ ?_ stops
    · rw [split, List.append_assoc]
    · rw [place, Point.behind_append]

/-- As long as no two readings begin, every reading is the one that the log follows. -/
theorem goes_of_reaches {text : List Glyph} {r : Reading} (h : Reaches text r) :
    (log text).2 = .ambiguous ∨ ∃ before rest answer, text = before ++ rest ∧
      r.point = Point.origin.behind before ∧ Goes r.stack r.point rest answer ∧
        answer.2 = (log text).2 := by
  induction h with
  | start => exact .inr ⟨[], text, _, rfl, rfl, goes_logFrom .empty .origin text, rfl⟩
  | @push r before rest token stack reached split place read pushes ih =>
    rcases ih with hambiguous | ⟨before', rest', answer, split', place', hgoes, hanswer⟩
    · exact .inl hambiguous
    obtain ⟨rfl, rfl⟩ := Point.eq_of_behind (split.symm.trans split') (place.symm.trans place')
    have hviable := Parser.viable_of_reaches reached
    have hending {ending : Parser.Ending} {token' : Token} {mode : Nat} {events : List Event}
        (hmode : mode? r.stack.state = some mode)
        (read' : (tokenEvents mode r.point rest).2 = some token')
        (makes : Makes token' r.stack events (some ending)) :
        token = token' ∧ ending = .pushed stack := by
      obtain rfl := Option.some.inj (read.symm.trans (token?_of_read hmode read'))
      have hmem := hviable.mem_settle (.pushed pushes) r.stack.potential_le
      rw [makes.settle_eq hviable r.stack.potential_le] at hmem
      exact ⟨rfl, (List.mem_singleton.1 hmem).symm⟩
    obtain ⟨s, q⟩ := r
    cases hgoes with
    | unread hmode read' =>
      rw [tokenEvents_snd] at read'
      simp [Reading.token?, hmode, read'] at read
    | fails hmode read' makes => cases (hending hmode read' makes).2
    | divides => exact .inl hanswer.symm
    | accepts hmode read' makes => cases (hending hmode read' makes).2
    | @pushes _ next _ word more _ token' _ answer hmode read' makes some_ stop later =>
      obtain ⟨rfl, hnext⟩ := hending hmode read' makes
      cases hnext
      refine .inr ⟨before ++ word, more, answer, ?_, ?_, stop ▸ later, hanswer⟩
      · rw [split, List.append_assoc]
      · rw [Point.behind_append, ← place]
        exact stop

/-- A log stops where a stack meets two actions. -/
theorem Goes.stop_of_both {r : Reading} {rest : List Glyph} {answer : List Event × Stop}
    (h : Goes r.stack r.point rest answer) {token : Token} (read : r.token? rest = some token)
    {t : Stack} (completes : Completes token r.stack t) {next : Nat} {r' : Automaton.Reduction}
    (both : action? t.state token.kind = some (.both next r')) : answer.2 = .ambiguous := by
  obtain ⟨s, p⟩ := r
  have hnone {token' : Token} {mode : Nat} {events : List Event} {ending : Option Parser.Ending}
      (hmode : mode? s.state = some mode) (read' : (tokenEvents mode p rest).2 = some token')
      (makes : Makes token' s events ending) : ending = none := by
    obtain rfl := Option.some.inj (read.symm.trans (token?_of_read hmode read'))
    exact makes.eq_none completes both
  cases h with
  | unread hmode read' =>
    rw [tokenEvents_snd] at read'
    simp [Reading.token?, hmode, read'] at read
  | divides => rfl
  | fails hmode read' makes | accepts hmode read' makes | pushes hmode read' makes =>
    cases hnone hmode read' makes

theorem stop_eq_ambiguous_iff (text : List Glyph) : (log text).2 = .ambiguous ↔ Meets text := by
  constructor
  · exact (goes_logFrom .empty .origin text).meets .start (List.nil_append text).symm rfl
  · rintro ⟨stack, token, next, r, ⟨reached, split, place, read, completes⟩, hboth⟩
    obtain hambiguous | ⟨before, rest, answer, split', place', hgoes, hanswer⟩ :=
      goes_of_reaches reached
    · exact hambiguous
    obtain ⟨rfl, rfl⟩ := Point.eq_of_behind (split.symm.trans split') (place.symm.trans place')
    rw [← hanswer]
    exact hgoes.stop_of_both read completes hboth

/-- What the log of a text says of its parse. -/
structure Faithful (bytes : List UInt8) (events : List Event) (stop : Stop) : Prop where
  /-- The events that are heard are those of the channels that are listened to, in their order. -/
  heard : ∀ channels, (heard channels events).Sublist events ∧
    ∀ e, (heard channels events).count e = if e.channel ∈ channels then events.count e else 0
  /-- The lines that are answered tell these events. -/
  told : ∀ channels, ((Trace.heard channels events).map Event.line).map
    (Event.ofLine? (Glyph.ofBytes bytes)) = (Trace.heard channels events).map some
  /-- A log that goes on to the end, replayed from the first state on, builds the tree of the program. -/
  replays : stop = .done → ∃ c tree, Replay.start.run events = some c ∧ c.root? = some tree ∧
    Parser.parse (Glyph.ofBytes bytes) = .valid tree ∧
      Program.ofBytes bytes = .valid (tree.program (Point.origin.behind (Glyph.ofBytes bytes)))
  /-- The tokens that are read in it make up the text. -/
  sizes : stop = .done → (events.filterMap Event.size?).sum = bytes.length
  /-- Its last event is the report on the text. -/
  last : stop = .done → events.getLast? = some (.parsed bytes.length false)
  /-- Where it ends in an error, the program is invalid behind the place that was reported last. -/
  error : stop = .error → ∃ place, Program.ofBytes bytes = .invalid place ∧
    (events.filterMap Event.place?).getLast? = some place
  /-- It ends before its time where a state takes two actions on a token. -/
  ambiguous : stop = .ambiguous ↔ Meets (Glyph.ofBytes bytes)

theorem count_heard (channels : List Channel) (events : List Event) (e : Event) :
    (heard channels events).count e = if e.channel ∈ channels then events.count e else 0 := by
  split
  · next h => exact List.count_filter (by simpa using h)
  · next h =>
    refine List.count_eq_zero.2 fun hmem => h ?_
    simpa using (List.mem_filter.1 hmem).2

/-- The log of a text tells the parse of the text. -/
theorem log_faithful (bytes : List UInt8) :
    Faithful bytes (log (Glyph.ofBytes bytes)).1 (log (Glyph.ofBytes bytes)).2 where
  heard channels := ⟨List.filter_sublist, count_heard channels _⟩
  told channels := by
    rw [List.map_map]
    exact List.map_congr_left fun e he => ofLine?_log _ e (List.mem_filter.1 he).1
  replays stops := by
    obtain ⟨c, tree, hrun, hroot, hsweep⟩ :=
      (goes_logFrom .empty .origin (Glyph.ofBytes bytes)).run_eq .empty stops (c := .start) rfl rfl
    exact ⟨c, tree, hrun, hroot, hsweep, Program.ofGlyphs_eq_valid.2 ⟨tree, hsweep, rfl⟩⟩
  sizes stops := by
    have hsizes := (goes_logFrom .empty .origin (Glyph.ofBytes bytes)).sizes_eq .empty stops
    rw [Glyph.totalSize_ofBytes] at hsizes
    exact hsizes
  last stops := by
    have hlast := (goes_logFrom .empty .origin (Glyph.ofBytes bytes)).getLast?_eq stops
    rw [Point.origin_behind_byte, Glyph.totalSize_ofBytes] at hlast
    rw [log, List.getLast?_cons, hlast]
    rfl
  error stops := by
    obtain ⟨place, hsweep, hlast⟩ :=
      (goes_logFrom .empty .origin (Glyph.ofBytes bytes)).sweep_error .empty stops
    refine ⟨place, ?_, hlast⟩
    rw [Program.ofBytes, Program.ofGlyphs, show Parser.parse _ = .invalid place from hsweep]
  ambiguous := stop_eq_ambiguous_iff _

/-- A call with a comment behind an argument, and another one at the end. -/
def call : List UInt8 := "f(1 /* one */, @a) // end".toList.map fun c => c.toNat.toUInt8

/-- A call with a letter that belongs to no token. -/
def stray : List UInt8 := "f(1 /* one */ ! )".toList.map fun c => c.toNat.toUInt8

/-- A destination that may be read in two ways. -/
def remainder : List UInt8 :=
  "send $m ( source = @a destination = \x7b remaining kept \x7d )".toList.map fun c => c.toNat.toUInt8

/-- The closing parenthesis of the call ends five phrases before it is pushed, and both comments are pushed. -/
theorem log_faithful_call :
    (log (Glyph.ofBytes call)).2 = .done ∧ (log (Glyph.ofBytes stray)).2 = .error ∧
    (log (Glyph.ofBytes remainder)).2 = .ambiguous ∧
    [.lookahead (some .rparen) 1, .reduce .accountLiteralPart 1, .reduce .accountLiteral 2, .reduce .valueExpr 1,
      .reduce .moreArgs 2, .reduce .functionCallArgs 2, .shift 365] <:+: (log (Glyph.ofBytes call)).1 ∧
    (log (Glyph.ofBytes call)).1.count .shiftExtra = 2 ∧
    (heard [.parser] (log (Glyph.ofBytes call)).1).count .shiftExtra = 2 ∧
    ((heard [.lexer] (log (Glyph.ofBytes call)).1).map Event.line).map (Event.ofLine? (Glyph.ofBytes call)) =
      (heard [.lexer] (log (Glyph.ofBytes call)).1).map some ∧
    (∃ c tree, Replay.start.run (log (Glyph.ofBytes call)).1 = some c ∧ c.root? = some tree) ∧
    ((log (Glyph.ofBytes call)).1.filterMap Event.size?).sum = 25 ∧
    [.skipUnrecognized, .consume (.char 0x21)] <:+: (log (Glyph.ofBytes stray)).1 ∧
    Program.ofBytes stray = .invalid ⟨13, 0, 13⟩ ∧ Meets (Glyph.ofBytes remainder) := by
  have hdone : (log (Glyph.ofBytes call)).2 = .done := by decide +kernel
  have herror : (log (Glyph.ofBytes stray)).2 = .error := by decide +kernel
  have hambiguous : (log (Glyph.ofBytes remainder)).2 = .ambiguous := by decide +kernel
  have hextra : (log (Glyph.ofBytes call)).1.count .shiftExtra = 2 := by decide +kernel
  have hplace : ((log (Glyph.ofBytes stray)).1.filterMap Event.place?).getLast? = some ⟨13, 0, 13⟩ := by
    decide +kernel
  obtain ⟨c, tree, hrun, hroot, _⟩ := (log_faithful call).replays hdone
  obtain ⟨place, hinvalid, hlast⟩ := (log_faithful stray).error herror
  obtain rfl := Option.some.inj (hlast.symm.trans hplace)
  have hheard := ((log_faithful call).heard [.parser]).2 .shiftExtra
  exact ⟨hdone, herror, hambiguous, by decide +kernel, hextra, hheard.trans hextra, (log_faithful call).told [.lexer],
    ⟨c, tree, hrun, hroot⟩, (log_faithful call).sizes hdone, by decide +kernel, hinvalid,
    (log_faithful remainder).ambiguous.1 hambiguous⟩

end Trace
end Numscript
