import Numscript.Proofs.Automaton.Astray
import Numscript.Proofs.Parser.Spine
import Numscript.Proofs.Parser.Frontier

/-!
# Tokens that a reading goes on with

A reading acts only on tokens that the mode of its own state finds. So the tokens that it goes on with are
told by the text alone, whatever else could be read in the same place.
-/
namespace Numscript.Parser

open Automaton (Reduction acts leads? goto? reduction?)

theorem Settles.acts {token : Token} {s : Stack} {e : Ending} (h : Settles token s e) :
    acts s.state token.kind = true := by
  cases h with
  | pass comment => simp [Automaton.acts, comment]
  | shift _ leads => simp [Automaton.acts, leads]
  | reduce _ asks => simp [Automaton.acts, asks]
  | accept final kind => simp [Automaton.acts, final, kind]

theorem Settles.exists_pushed {token : Token} {s : Stack} {e : Ending} (h : Settles token s e)
    (more : token.kind ≠ .endOfText) : ∃ t, e = .pushed t := by
  induction h with
  | pass => exact ⟨_, rfl⟩
  | shift => exact ⟨_, rfl⟩
  | reduce _ _ _ _ ih => exact ih
  | accept _ kind => exact absurd kind more

theorem Settles.kind_of_accepted {token : Token} {s : Stack} {root : Tree}
    (h : Settles token s (.accepted root)) : token.kind = .endOfText := by
  by_contra more
  obtain ⟨_, he⟩ := h.exists_pushed more
  cases he

theorem Settles.kind_ne_endOfText {token : Token} {s t : Stack}
    (h : Settles token s (.pushed t)) : token.kind ≠ .endOfText := by
  generalize he : Ending.pushed t = e at h
  intro kind
  induction h with
  | pass comment => simp [kind, Terminal.isComment] at comment
  | shift _ leads =>
    rw [kind, Automaton.leads?_endOfText] at leads
    cases leads
  | reduce _ _ _ _ ih => exact ih he
  | accept => cases he

/-- The token that a reading goes on with is found by its own mode. -/
theorem Reading.finds {r : Reading} {text : List Glyph} {token : Token} (hv : Viable r.stack)
    (read : r.token? text = some token) (acts : Automaton.acts r.stack.state token.kind = true) :
    ∃ mode, Automaton.mode? r.stack.state = some mode ∧ Lexer.IsMode mode ∧
      Lexer.Finds mode r.point text token := by
  obtain ⟨mode, hmode, hismode⟩ := hv.isMode
  obtain ⟨s, hs, rfl⟩ := Option.map_eq_some_iff.1 hmode
  rw [Reading.token?, Stack.top?_ground, Option.bind_some, hmode, Option.bind_some] at read
  have hfinds := Automaton.finds_of_acts hs acts
  exact ⟨s.mode, hmode, hismode, Lexer.finds_of_lookahead? hismode read
    (Automaton.State.expects_of_finds hfinds)⟩

/-- A token that the mode of its state finds is the one that a reading meets. -/
theorem Reading.token?_of_finds {r : Reading} {text : List Glyph} {token : Token} {mode : Nat}
    (hmode : Automaton.mode? r.stack.state = some mode) (ismode : Lexer.IsMode mode)
    (h : Lexer.Finds mode r.point text token) : r.token? text = some token := by
  rw [Reading.token?, Stack.top?_ground, Option.bind_some, hmode, Option.bind_some]
  exact Lexer.lookahead?_of_finds ismode h

theorem Reading.token?_congr {x y : Reading} (point : x.point = y.point)
    (state : x.stack.state = y.stack.state) (text : List Glyph) : x.token? text = y.token? text := by
  rw [Reading.token?, Reading.token?, Stack.top?_ground, Stack.top?_ground, point, state]

/-- What a reading does before a text: a branch of the machine on the token that it meets. -/
structure Reading.Does (r : Reading) (text : List Glyph) (token : Token) (e : Ending) : Prop where
  viable : Viable r.stack
  read : r.token? text = some token
  settles : Settles token r.stack e

namespace Reading.Does

variable {r x y : Reading} {text : List Glyph} {token a b : Token} {e e' : Ending}

theorem mem_actions (h : r.Does text token e) :
    token.kind ∈ Automaton.actions (top r.stack.spine) := by
  rw [h.viable.top_spine]
  exact List.mem_filter.2 ⟨Terminal.mem_all _, h.settles.acts⟩

theorem finds (h : r.Does text token e) : ∃ mode, Automaton.mode? r.stack.state = some mode ∧
    Lexer.IsMode mode ∧ Lexer.Finds mode r.point text token :=
  Reading.finds h.viable h.read h.settles.acts

/-- A token that a reading goes on with is the end of the text, or begins with the next glyph. -/
theorem word (h : r.Does text token e) {g : Glyph} {rest : List Glyph}
    (body : Lexer.body r.point text = g :: rest) : ∃ w more, g :: rest = w ++ more ∧
      Grammar.IsLexeme token.kind w ∧ token.stop = r.point.behind (Lexer.lead r.point text ++ w) ∧
      ∀ v tail, g :: rest = v ++ tail → Grammar.IsLexeme token.kind v → v.length ≤ w.length := by
  obtain ⟨mode, _, _, hfinds⟩ := h.finds
  cases hfinds with
  | ends isOver =>
    rw [body] at isOver
    cases isOver
  | @word t w more munch =>
    rw [body] at munch
    obtain ⟨hexpected, hlexeme⟩ := Lexer.fits_initial_iff.1 munch.fits
    exact ⟨w, more, munch.split, hlexeme, rfl, fun v tail split hv =>
      munch.isLongest _ _ _ split (Lexer.fits_initial_iff.2 ⟨hexpected, hv⟩)⟩

theorem over_iff (h : r.Does text token e) :
    token.kind = .endOfText ↔ Lexer.body r.point text = [] := by
  obtain ⟨mode, _, _, hfinds⟩ := h.finds
  exact hfinds.over_iff

/-- Readings in the same place go on with the same token, if each mode expects what the other finds. -/
theorem eq_of_finds? (hx : x.Does text a e) (hy : y.Does text b e') (point : x.point = y.point)
    (told : Automaton.finds? (top x.stack.spine, top y.stack.spine) a.kind b.kind = true) :
    a = b := by
  rw [hx.viable.top_spine, hy.viable.top_spine] at told
  obtain ⟨mode, hmode, _, hfinds⟩ := hx.finds
  obtain ⟨mode', hmode', _, hfinds'⟩ := hy.finds
  rw [Automaton.finds?, hmode, hmode'] at told
  rw [← point] at hfinds'
  exact hfinds.unique hfinds' told

theorem eq_of_over (hx : x.Does text a e) (hy : y.Does text b e') (point : x.point = y.point)
    (isOver : Lexer.body x.point text = []) : a = b := by
  obtain ⟨_, _, _, hfinds⟩ := hx.finds
  obtain ⟨_, _, _, hfinds'⟩ := hy.finds
  rw [hfinds.eq_of_over isOver, hfinds'.eq_of_over (point ▸ isOver), point]

end Reading.Does

/-- What a reading becomes is what a branch makes of its stack. -/
theorem does_of_mem_nexts {r r' : Reading} {text : List Glyph} (hv : Viable r.stack)
    (h : r' ∈ r.nexts r.point text) :
    ∃ token, r.Does text token (.pushed r'.stack) ∧ r'.point = token.stop := by
  obtain ⟨token, read, pushes, point⟩ := (mem_nexts_iff hv).1 h
  exact ⟨token, ⟨hv, read, (Ends.pushed pushes).settles hv⟩, point⟩

end Numscript.Parser
