import Mathlib.Data.List.Chain
import Numscript.Proofs.Lexer.Moves
import Numscript.Proofs.Text.Bytes
import Numscript.Trace.Log

/-!
# The search for a token

Behind text in which no token starts, the lexer runs again and again until it finds one or the text ends. The
places where these runs start are in the log. Each is behind all that the run before has read, and behind one
glyph at least, so the search gets further in the text in every turn.
-/
namespace Numscript

theorem Lexer.run_origin (mode : Nat) (p : Point) (text : List Glyph) :
    (run mode p text).point = p ∧ (run mode p text).mode = mode := by
  rw [run]
  split <;> exact ⟨rfl, rfl⟩

namespace Trace

open Lexer (errorMode)

/-- A place of a text that begins at a point. -/
def Place (p : Point) (text : List Glyph) (q : Point) : Prop :=
  ∃ before rest, text = before ++ rest ∧ q = p.behind before

/-- The place where a run of the lexer starts that is reported. -/
def Event.runStart? : Event → Option Point
  | .lexing _ p => some p
  | _ => none

/-- The places where the reported runs of the lexer start. -/
def runStarts (events : List Event) : List Point := events.filterMap Event.runStart?

/-- A turn at a place of a text finds no token, and the next turn is behind all that it has read, or behind one glyph
if it has read nothing. -/
def Misses (p : Point) (text : List Glyph) (q q' : Point) : Prop :=
  ∃ before passed rest, text = before ++ (passed ++ rest) ∧ q = p.behind before ∧ q' = q.behind passed ∧
    (Lexer.run errorMode q (passed ++ rest)).scan.found = none ∧
    passed.length = max 1 (Lexer.run errorMode q (passed ++ rest)).length

/-- The search for a token in a text that begins at a point, with its reports and the place where it ends. -/
structure Search (p : Point) (text : List Glyph) (answer : List Event × Point) : Prop where
  /-- The first turn is at the point. -/
  first : (runStarts answer.1).head? = some p
  places : ∀ q ∈ runStarts answer.1, Place p text q
  turns : (runStarts answer.1).IsChain (Misses p text)
  /-- Every turn is further in the text than those before. -/
  further : (runStarts answer.1).Pairwise fun q q' => q.byte < q'.byte
  count : (runStarts answer.1).length ≤ text.length + 1
  last : (runStarts answer.1).getLast? = some answer.2
  /-- The last turn is where the text ends or a token is found. -/
  ended : ∃ before rest, text = before ++ rest ∧ answer.2 = p.behind before ∧
    (rest = [] ∨ (Lexer.run errorMode answer.2 rest).scan.found.isSome = true)

section
variable {p q q' : Point} {passed rest text : List Glyph}

theorem Place.append (h : Place (p.behind passed) rest q) : Place p (passed ++ rest) q := by
  obtain ⟨before, more, rfl, rfl⟩ := h
  exact ⟨passed ++ before, more, (List.append_assoc ..).symm, (Point.behind_append ..).symm⟩

theorem Place.self (p : Point) (text : List Glyph) : Place p text p := ⟨[], text, rfl, rfl⟩

theorem Misses.append (h : Misses (p.behind passed) rest q q') : Misses p (passed ++ rest) q q' := by
  obtain ⟨before, word, more, rfl, hq, hnext⟩ := h
  exact ⟨passed ++ before, word, more, (List.append_assoc ..).symm, by rw [hq, Point.behind_append], hnext⟩

theorem byte_le_of_place (h : Place p text q) : p.byte ≤ q.byte := by
  obtain ⟨before, more, -, rfl⟩ := h
  rw [Point.behind_byte]
  exact Nat.le_add_right ..

theorem byte_lt_behind (some_ : passed ≠ []) (p : Point) : p.byte < (p.behind passed).byte := by
  obtain ⟨g, word, rfl⟩ := List.exists_cons_of_ne_nil some_
  have hpos := g.size_pos
  rw [Point.behind_byte, Glyph.totalSize]
  omega

end

theorem runStarts_append (a b : List Event) : runStarts (a ++ b) = runStarts a ++ runStarts b :=
  List.filterMap_append

theorem runStarts_map {f : Glyph → Event} (h : ∀ g, (f g).runStart? = none) (word : List Glyph) :
    runStarts (word.map f) = [] := by
  rw [runStarts, List.filterMap_map, List.filterMap_eq_nil_iff]
  exact fun g _ => h g

theorem runStarts_runEvents (r : Lexer.Run) (text : List Glyph) : runStarts (runEvents r text) = [r.point] := by
  rw [runEvents, ← List.singleton_append, runStarts_append, runStarts_append, runStarts_map fun _ => rfl,
    runStarts_map fun _ => rfl]
  rfl

theorem run_length_le (mode : Nat) (p : Point) (text : List Glyph) :
    (Lexer.run mode p text).length ≤ text.length := by
  have hstop (text : List Glyph) : (Lexer.scan mode text).stop ≤ text.length := by
    obtain ⟨n, r, rest, -, -, hstop⟩ := Lexer.exists_moves_scanFrom mode 0 0 none text
    rw [Lexer.scan]
    omega
  rw [Lexer.run]
  split
  · next hmark =>
    obtain ⟨g, rest, rfl⟩ : ∃ g rest, text = g :: rest := by
      cases text with
      | nil => cases hmark.2
      | cons g rest => exact ⟨g, rest, rfl⟩
    have hle := hstop rest
    rw [Lexer.Run.length, List.length_cons]
    simp only [List.tail_cons]
    omega
  · have hle := hstop text
    rw [Lexer.Run.length]
    simp only
    omega

theorem resume_pass (pass : Nat) (p : Point) (text : List Glyph) :
    resume pass p text = resume 0 (p.behind (text.take pass)) (text.drop pass) := by
  induction pass generalizing p text with
  | zero => rfl
  | succ pass ih =>
    cases text with
    | nil => rfl
    | cons g text =>
      rw [resume, ih, List.take_succ_cons, List.drop_succ_cons]
      rfl

/-- A turn that finds a token, or the end of the text, is the last one. -/
theorem Search.stop {p : Point} {text : List Glyph} {events : List Event} (starts : runStarts events = [p])
    (ended : text = [] ∨ (Lexer.run errorMode p text).scan.found.isSome = true) :
    Search p text (events, p) where
  first := by rw [starts]; rfl
  places q hq := by
    rw [starts, List.mem_singleton] at hq
    exact hq ▸ .self p text
  turns := by rw [starts]; exact .singleton p
  further := by rw [starts]; exact List.pairwise_singleton _ p
  count := by rw [starts]; exact Nat.le_add_left 1 _
  last := by rw [starts]; rfl
  ended := ⟨[], text, rfl, rfl, ended⟩

/-- A turn without a token is followed by the rest of the search. -/
theorem Search.turn {p : Point} {passed rest : List Glyph} {events : List Event} {answer : List Event × Point}
    (starts : runStarts events = [p]) (missed : (Lexer.run errorMode p (passed ++ rest)).scan.found = none)
    (length : passed.length = max 1 (Lexer.run errorMode p (passed ++ rest)).length)
    (later : Search (p.behind passed) rest answer) :
    Search p (passed ++ rest) (events ++ answer.1, answer.2) := by
  have hsome : passed ≠ [] := fun hnil => by
    rw [hnil, List.length_nil] at length
    omega
  have hstarts : runStarts (events ++ answer.1) = p :: runStarts answer.1 := by
    rw [runStarts_append, starts, List.singleton_append]
  refine ⟨?_, ?_, ?_, ?_, ?_, ?_, ?_⟩
  · rw [hstarts]
    rfl
  · rw [hstarts, List.forall_mem_cons]
    exact ⟨.self _ _, fun q hq => (later.places q hq).append⟩
  · rw [hstarts, List.isChain_cons]
    refine ⟨fun q hq => ?_, later.turns.imp fun _ _ => Misses.append⟩
    obtain rfl : p.behind passed = q := Option.some.inj (later.first.symm.trans hq)
    exact ⟨[], passed, rest, rfl, rfl, rfl, missed, length⟩
  · rw [hstarts, List.pairwise_cons]
    refine ⟨fun q hq => ?_, later.further⟩
    exact Nat.lt_of_lt_of_le (byte_lt_behind hsome p) (byte_le_of_place (later.places q hq))
  · have hcount := later.count
    have hpos := List.length_pos_iff.2 hsome
    simp only [hstarts, List.length_cons, List.length_append]
    omega
  · rw [hstarts, List.getLast?_cons, later.last]
    rfl
  · obtain ⟨before, more, rfl, hplace, hended⟩ := later.ended
    exact ⟨passed ++ before, more, (List.append_assoc ..).symm, by rw [hplace, Point.behind_append], hended⟩

theorem Search.quiet {p : Point} {text : List Glyph} {events : List Event} {answer : List Event × Point}
    (quiet : runStarts events = []) (h : Search p text answer) : Search p text (events ++ answer.1, answer.2) := by
  have hstarts : runStarts (events ++ answer.1) = runStarts answer.1 := by
    rw [runStarts_append, quiet, List.nil_append]
  obtain ⟨first, places, turns, further, count, last, ended⟩ := h
  rw [← hstarts] at first places turns further count last
  exact ⟨first, places, turns, further, count, last, ended⟩

theorem search_resume (p : Point) (text : List Glyph) : Search p text (resume 0 p text) := by
  generalize hlength : text.length = n
  induction n using Nat.strong_induction_on generalizing p text with
  | _ n ih =>
    cases text with
    | nil => exact .stop (by rw [runStarts_runEvents, (Lexer.run_origin ..).1]) (.inl rfl)
    | cons g rest =>
      rw [resume]
      generalize hrun : Lexer.run errorMode p (g :: rest) = r
      have hpoint : r.point = p := hrun ▸ (Lexer.run_origin ..).1
      have hle : r.length ≤ (g :: rest).length := hrun ▸ run_length_le ..
      simp only
      split
      · next hfound =>
        refine .stop (by rw [runStarts_runEvents, hpoint]) (.inr ?_)
        rw [hrun, hfound]
      · next hmissed =>
        rw [resume_pass]
        have hsplit : g :: rest = (g :: rest.take (r.length - 1)) ++ rest.drop (r.length - 1) := by
          rw [List.cons_append, List.take_append_drop]
        have hpassed : (g :: rest.take (r.length - 1)).length = max 1 r.length := by
          rw [List.length_cons] at hle ⊢
          rw [List.length_take]
          omega
        have hevents : runStarts (runEvents r (g :: rest) ++ if r.length = 0 then [.consume g] else []) = [p] := by
          rw [runStarts_append, runStarts_runEvents, hpoint]
          split <;> rfl
        have hshort : (rest.drop (r.length - 1)).length < n := by
          rw [← hlength, List.length_drop, List.length_cons]
          omega
        have hlater := ih _ hshort (p.behind (g :: rest.take (r.length - 1))) _ rfl
        have hnone : r.scan.found = none := by simpa using hmissed
        have hsearch := Search.turn hevents (by rw [← hsplit, hrun, hnone]) (by rw [← hsplit, hrun, hpassed]) hlater
        rw [← hsplit] at hsearch
        exact hsearch

/-- A failed run is followed by nothing, if there is only white space, or by the search behind all that it has read,
and behind one glyph after the white space at least. -/
inductive Resumes (p : Point) (text : List Glyph) (failed : Lexer.Run) (answer : List Event × Point) : Prop where
  | blank (blank : text.length ≤ failed.lead) (starts : runStarts answer.1 = [])
      (place : answer.2 = p.behind text)
  | search {passed rest : List Glyph} (split : text = passed ++ rest)
      (length : passed.length = max (failed.lead + 1) failed.length)
      (search : Search (p.behind passed) rest answer)

theorem resumes_unrecognized (p : Point) (text : List Glyph) :
    Resumes p text (Lexer.run errorMode p text) (unrecognized (Lexer.run errorMode p text) text) := by
  generalize hrun : Lexer.run errorMode p text = r
  have hpoint : r.point = p := hrun ▸ (Lexer.run_origin ..).1
  have hle : r.length ≤ text.length := hrun ▸ run_length_le ..
  rw [unrecognized, hpoint]
  simp only
  split
  · next hdrop =>
    have hlead := List.drop_eq_nil_iff.1 hdrop
    exact .blank hlead rfl (by rw [List.take_of_length_le hlead])
  · next g rest hdrop =>
    rw [resume_pass]
    have hlength := congrArg List.length hdrop
    rw [List.length_drop, List.length_cons] at hlength
    have hsplit : text = (text.take r.lead ++ g :: rest.take (r.length - r.lead - 1)) ++
        rest.drop (r.length - r.lead - 1) := by
      rw [List.append_assoc, List.cons_append, List.take_append_drop, ← hdrop, List.take_append_drop]
    refine .search hsplit ?_ ?_
    · rw [List.length_append, List.length_take, List.length_cons, List.length_take]
      omega
    · have hquiet : runStarts (.skipUnrecognized :: if r.length = r.lead then [.consume g] else []) = [] := by
        split <;> rfl
      rw [Point.behind_append]
      exact .quiet hquiet (search_resume _ _)

end Trace
end Numscript
