import Numscript.Proofs.Lexer.Lookahead
import Numscript.Proofs.Parser.Alike
import Numscript.Proofs.Parser.Front
import Numscript.Proofs.Text.Place

/-!
# Frontiers

The readings that the machine comes to, in the order in which a sweep over the text meets them. The
frontier at a place of the text holds the readings that have read a token from before that place to
behind it: moving the frontier over a glyph lets the readings that stand before the glyph read their
next token, in every way, and keeps the others. Every reading of the machine is on the frontier at the
place where it stands.
-/
namespace Numscript.Parser

open Automaton (leads?)

theorem Viable.isMode {stack : Stack} (h : Viable stack) :
    ∃ mode, Automaton.mode? stack.state = some mode ∧ Lexer.IsMode mode := by
  obtain ⟨s, hs⟩ := h.exists_state
  obtain ⟨page, hpage, hmem⟩ := Automaton.mem_pages_of_state? hs
  exact ⟨s.mode, by rw [Automaton.mode?, hs]; rfl, Lexer.isMode_of_mem page hpage s hmem⟩

/-- The token that a reading meets is the end of the text, or spans one of its lexemes. -/
theorem Reading.token?_spec {r : Reading} {text : List Glyph} {token : Token}
    (hv : Viable r.stack) (h : r.token? text = some token) :
    token.start = r.point.behind (Lexer.lead r.point text) ∧
      ((token.kind = .endOfText ∧ Lexer.body r.point text = [] ∧ token.stop = token.start) ∨
        ∃ w rest, Lexer.body r.point text = w ++ rest ∧ Grammar.IsLexeme token.kind w ∧
          token.stop = r.point.behind (Lexer.lead r.point text ++ w)) := by
  obtain ⟨mode, hmode, hismode⟩ := hv.isMode
  rw [Reading.token?, Stack.top?_ground, Option.bind_some, hmode, Option.bind_some] at h
  exact Lexer.lookahead?_spec hismode h

theorem Viable.leads_of_pushes {token : Token} {s t : Stack} (h : Viable s)
    (hp : Pushes token s t) : token.kind.isComment = true ∨
      ∃ q next, leads? q (.terminal token.kind) = some next := by
  obtain ⟨u, next, _, _, _, hcomment | hleads⟩ := h.exists_push hp
  · exact .inl hcomment
  · exact .inr ⟨_, _, hleads⟩

theorem Viable.kind_ne_endOfText {token : Token} {s t : Stack} (h : Viable s)
    (hp : Pushes token s t) : token.kind ≠ .endOfText := by
  intro hkind
  rcases h.leads_of_pushes hp with hcomment | ⟨q, next, hleads⟩
  · rw [hkind] at hcomment
    cases hcomment
  · rw [hkind, Automaton.leads?_endOfText] at hleads
    cases hleads

/-- A reading at a point becomes what the machine makes of it with its next token. -/
theorem mem_nexts_iff {r r' : Reading} {text : List Glyph} (hv : Viable r.stack) :
    r' ∈ r.nexts r.point text ↔
      ∃ token, r.token? text = some token ∧ Pushes token r.stack r'.stack ∧
        r'.point = token.stop := by
  rw [Reading.nexts, mem_alive, Reading.endings, if_pos rfl, advanceStack, Stack.top?_ground]
  simp only
  rw [Reading.token?, Stack.top?_ground, Option.bind_some]
  cases htoken : (Automaton.mode? r.stack.state).bind fun mode =>
      Lexer.lookahead? mode r.point text with
  | none => simp
  | some token =>
    simp only [List.mem_map, Prod.mk.injEq, Option.some.injEq]
    constructor
    · rintro ⟨e, he, rfl, hstop⟩
      rcases ends_of_mem_settle he with hf | hf | hf
      · cases hf
      · cases hf
      · cases hf with
        | pushed pushes => exact ⟨token, rfl, pushes, hstop.symm⟩
    · rintro ⟨_, rfl, pushes, hstop⟩
      exact ⟨_, hv.mem_settle (.pushed pushes) r.stack.potential_le, rfl, hstop.symm⟩

theorem nexts_of_ne {r : Reading} {p : Point} {text : List Glyph} (h : r.point ≠ p) :
    r.nexts p text = [r] := by
  rw [Reading.nexts, Reading.endings, if_neg h]
  rfl

/-- A reading that is read over a place was pushed behind it. -/
theorem point_of_mem_nexts {r r' : Reading} {before rest : List Glyph} (hv : Viable r.stack)
    (hp : r.point = Point.origin.behind before) (h : r' ∈ r.nexts r.point rest) :
    ∃ word more, word ≠ [] ∧ rest = word ++ more ∧
      r'.point = Point.origin.behind (before ++ word) := by
  obtain ⟨token, htoken, hpushes, hpoint⟩ := (mem_nexts_iff hv).1 h
  obtain ⟨_, ⟨hkind, _⟩ | ⟨w, more, hbody, hlexeme, hstop⟩⟩ := Reading.token?_spec hv htoken
  · exact absurd hkind (hv.kind_ne_endOfText hpushes)
  · refine ⟨Lexer.lead r.point rest ++ w, more, ?_, ?_, ?_⟩
    · intro hnil
      exact Lexer.ne_nil_of_isLexeme hlexeme (List.append_eq_nil_iff.1 hnil).2
    · rw [List.append_assoc, ← hbody, Lexer.lead_append_body]
    · rw [hpoint, hstop, Point.behind_append Point.origin, ← hp]

/-- The readings on the frontier behind some glyphs of a text. -/
inductive Frontier (text : List Glyph) : List Glyph → Reading → Prop where
  | start : Frontier text [] ⟨[], .origin⟩
  | next {before rest : List Glyph} {g : Glyph} {r r' : Reading}
      (reached : Frontier text before r) (split : text = before ++ g :: rest)
      (next : r' ∈ r.nexts (Point.origin.behind before) (g :: rest)) :
      Frontier text (before ++ [g]) r'

/-- The readings on the frontier behind the first glyphs of a text. -/
def frontierAt (text : List Glyph) : (place : Nat) → List Reading
  | 0 => [⟨[], .origin⟩]
  | place + 1 => (frontierAt text place).flatMap fun r =>
      r.nexts (Point.origin.behind (text.take place)) (text.drop place)

theorem frontier_of_mem_frontierAt {text : List Glyph} {place : Nat} (inside : place ≤ text.length)
    {r : Reading} (h : r ∈ frontierAt text place) : Frontier text (text.take place) r := by
  induction place generalizing r with
  | zero =>
    obtain rfl := List.mem_singleton.1 h
    exact .start
  | succ place ih =>
    obtain ⟨s, hs, hnext⟩ := List.mem_flatMap.1 h
    rw [List.drop_eq_getElem_cons inside] at hnext
    have hsplit : text = text.take place ++ text[place] :: text.drop (place + 1) := by
      rw [← List.drop_eq_getElem_cons inside, List.take_append_drop]
    rw [← List.take_append_getElem inside]
    exact .next (ih (Nat.le_of_succ_le inside) hs) hsplit hnext

theorem Frontier.reaches {text before : List Glyph} {r : Reading} (h : Frontier text before r) :
    Reaches text r := by
  induction h with
  | start => exact .start
  | @next before rest g r r' _ split next ih =>
    by_cases hp : r.point = Point.origin.behind before
    · rw [← hp] at next
      obtain ⟨token, htoken, hpushes, hpoint⟩ := (mem_nexts_iff (viable_of_reaches ih)).1 next
      obtain ⟨stack', point'⟩ := r'
      obtain rfl : point' = token.stop := hpoint
      exact .push ih split hp htoken hpushes
    · rw [nexts_of_ne hp] at next
      obtain rfl := List.mem_singleton.1 next
      exact ih

theorem Frontier.viable {text before : List Glyph} {r : Reading} (h : Frontier text before r) :
    Viable r.stack :=
  viable_of_reaches h.reaches

/-- A reading stands on its frontier or behind it. -/
theorem Frontier.place {text before : List Glyph} {r : Reading} (h : Frontier text before r) :
    ∃ middle rest, text = before ++ middle ++ rest ∧
      r.point = Point.origin.behind (before ++ middle) := by
  induction h with
  | start => exact ⟨[], text, rfl, rfl⟩
  | @next before rest g r r' reached split next ih =>
    by_cases hp : r.point = Point.origin.behind before
    · rw [← hp] at next
      obtain ⟨word, more, hne, hrest, hpoint⟩ := point_of_mem_nexts reached.viable hp next
      obtain ⟨g', word, rfl⟩ := List.exists_cons_of_ne_nil hne
      obtain ⟨rfl, rfl⟩ := List.cons.inj hrest
      exact ⟨word, more, by simpa using split, by simpa using hpoint⟩
    · rw [nexts_of_ne hp] at next
      obtain rfl := List.mem_singleton.1 next
      obtain ⟨middle, rest', split', place⟩ := ih
      cases middle with
      | nil => exact absurd (by simpa using place) hp
      | cons g' middle =>
        have heq : g :: rest = g' :: middle ++ rest' := by
          rw [split, List.append_assoc] at split'
          exact List.append_cancel_left split'
        obtain ⟨rfl, rfl⟩ := List.cons.inj heq
        exact ⟨middle, rest', by simpa using split, by simpa using place⟩

theorem Frontier.byte_le {text before : List Glyph} {r : Reading} (h : Frontier text before r) :
    Glyph.totalSize before ≤ r.point.byte := by
  obtain ⟨middle, rest, _, place⟩ := h.place
  rw [place, Point.origin_behind_byte, Glyph.totalSize_append]
  omega

/-- A reading stays on the frontier until that comes to where the reading stands. -/
theorem Frontier.keep {text before middle rest : List Glyph} {r : Reading}
    (h : Frontier text before r) (split : text = before ++ middle ++ rest)
    (hp : r.point = Point.origin.behind (before ++ middle)) :
    Frontier text (before ++ middle) r := by
  induction middle generalizing before with
  | nil => simpa using h
  | cons g middle ih =>
    have hsplit : text = before ++ g :: (middle ++ rest) := by
      rw [split, List.append_assoc, List.cons_append]
    have hne : r.point ≠ Point.origin.behind before := by
      intro heq
      rw [hp] at heq
      have hnil := (Point.eq_of_behind (x := []) (y := g :: middle) (by simp) heq).2
      cases hnil
    have hnext : Frontier text (before ++ [g]) r := by
      refine .next h hsplit ?_
      rw [nexts_of_ne hne]
      exact List.mem_singleton.2 rfl
    have hkeep := ih hnext (by simpa using split) (by simpa using hp)
    simpa using hkeep

/-- Every reading of the machine is on the frontier where it stands. -/
theorem frontier_of_reaches {text : List Glyph} {r : Reading} (h : Reaches text r) :
    ∃ before rest, text = before ++ rest ∧ r.point = Point.origin.behind before ∧
      Frontier text before r := by
  induction h with
  | start => exact ⟨[], text, rfl, rfl, .start⟩
  | @push r before rest token stack reached split place read pushes ih =>
    obtain ⟨before', rest', split', place', hfrontier⟩ := ih
    obtain ⟨rfl, rfl⟩ := Point.eq_of_behind (split'.symm.trans split) (place'.symm.trans place)
    have hv := hfrontier.viable
    have hmem : ⟨stack, token.stop⟩ ∈ r.nexts r.point rest' :=
      (mem_nexts_iff hv).2 ⟨token, read, pushes, rfl⟩
    obtain ⟨word, more, hne, rfl, hpoint⟩ := point_of_mem_nexts hv place hmem
    cases word with
    | nil => exact absurd rfl hne
    | cons g word =>
      rw [place] at hmem
      have hnext : Frontier text (before' ++ [g]) ⟨stack, token.stop⟩ :=
        .next hfrontier split hmem
      have split' : text = (before' ++ [g]) ++ word ++ more := by simpa using split
      have hpoint' : token.stop = Point.origin.behind ((before' ++ [g]) ++ word) := by
        simpa using hpoint
      have hkeep := hnext.keep split' hpoint'
      exact ⟨before' ++ g :: word, more, by simpa using split, hpoint, by simpa using hkeep⟩

end Numscript.Parser
