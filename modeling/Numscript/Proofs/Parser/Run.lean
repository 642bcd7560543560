import Numscript.Proofs.Parser.Frontier
import Numscript.Proofs.Tree.Built
import Numscript.Proofs.Tree.Kin

/-!
# Runs of the machine

A run of the machine together with the tokens that it has pushed, comments among them. The tokens are
found again in the stack: a push adds the last one, and a reduction keeps them all, in their order.
Every token spans a word of the text, and the next one starts behind it.
-/
namespace Numscript.Parser

open Automaton (Reduction)

/-- The readings that a run over a text comes to, and the tokens that it has pushed. -/
inductive Reads (text : List Glyph) : List Token → Reading → Prop where
  | start : Reads text [] ⟨[], .origin⟩
  | push {tokens : List Token} {r : Reading} {before rest : List Glyph} {token : Token}
      {stack : Stack} (reached : Reads text tokens r) (split : text = before ++ rest)
      (place : r.point = Point.origin.behind before) (read : r.token? rest = some token)
      (pushes : Pushes token r.stack stack) : Reads text (tokens ++ [token]) ⟨stack, token.stop⟩

theorem Reads.reaches {text : List Glyph} {tokens : List Token} {r : Reading}
    (h : Reads text tokens r) : Reaches text r := by
  induction h with
  | start => exact .start
  | push _ split place read pushes ih => exact .push ih split place read pushes

theorem Reads.viable {text : List Glyph} {tokens : List Token} {r : Reading}
    (h : Reads text tokens r) : Viable r.stack :=
  viable_of_reaches h.reaches

theorem exists_reads {text : List Glyph} {r : Reading} (h : Reaches text r) :
    ∃ tokens, Reads text tokens r := by
  induction h with
  | start => exact ⟨[], .start⟩
  | push _ split place read pushes ih =>
    obtain ⟨tokens, hreads⟩ := ih
    exact ⟨_, .push hreads split place read pushes⟩

/-- The tokens of a stack in the order of the text. -/
def Stack.tokens (stack : Stack) : List Token := stack.reverse.flatMap (·.tree.tokens)

theorem Stack.tokens_cons (f : Frame) (stack : Stack) :
    Stack.tokens (f :: stack) = stack.tokens ++ f.tree.tokens := by
  simp [Stack.tokens]

theorem Stack.tokens_append (upper lower : Stack) :
    Stack.tokens (upper ++ lower) = lower.tokens ++ upper.tokens := by
  simp [Stack.tokens]

theorem Stack.tokens_eq (stack : Stack) :
    stack.tokens = Tree.tokensOfAll (stack.map (·.tree)).reverse := by
  rw [Tree.tokensOfAll_eq, ← List.map_reverse, List.flatMap_map]
  rfl

theorem tokens_restated (next : Nat) (comments : Stack) :
    Stack.tokens (comments.map fun f => { f with state := next }) = comments.tokens := by
  simp only [Stack.tokens_eq, List.map_map, Function.comp_def]

theorem Reduces.tokens_eq {r : Reduction} {stack kept : Stack} (h : Reduces r stack kept) :
    kept.tokens = stack.tokens := by
  obtain ⟨pop, _, _⟩ := h
  obtain ⟨taken, hbare, hchildren, _⟩ := Stack.pop_eq_some pop
  rw [List.append_nil] at hchildren
  conv_rhs => rw [← stack.comments_append_bare, hbare]
  rw [Stack.tokens_append, tokens_restated, Stack.tokens_cons, Stack.tokens_append,
    Stack.tokens_append, Tree.tokens, hchildren, ← Stack.tokens_eq]

theorem Viable.tokens_completes {token : Token} {s t : Stack} (h : Viable s)
    (hc : Completes token s t) : t.tokens = s.tokens :=
  h.completes_keeps (P := fun u => u.tokens = s.tokens) hc rfl
    fun _ _ reduces h => reduces.tokens_eq.trans h

theorem Viable.tokens_pushes {token : Token} {s t : Stack} (h : Viable s)
    (hp : Pushes token s t) : t.tokens = s.tokens ++ [token] := by
  obtain ⟨u, next, completes, _, rfl, _⟩ := h.exists_push hp
  rw [← h.tokens_completes completes]
  exact Stack.tokens_cons _ _

theorem Reads.tokens_eq {text : List Glyph} {tokens : List Token} {r : Reading}
    (h : Reads text tokens r) : r.stack.tokens = tokens := by
  induction h with
  | start => rfl
  | push reached _ _ _ pushes ih => rw [reached.viable.tokens_pushes pushes, ih]

/-- A token that is pushed spans a word of the text, behind what is passed over before it. -/
theorem Viable.exists_word {r : Reading} {rest : List Glyph} {token : Token} {stack : Stack}
    (hv : Viable r.stack) (read : r.token? rest = some token)
    (pushes : Pushes token r.stack stack) : ∃ word more,
      rest = Lexer.lead r.point rest ++ word ++ more ∧ Grammar.IsLexeme token.kind word ∧
      token.start = r.point.behind (Lexer.lead r.point rest) ∧
      token.stop = r.point.behind (Lexer.lead r.point rest ++ word) := by
  obtain ⟨hstart, ⟨hkind, _⟩ | ⟨word, more, hbody, hlexeme, hstop⟩⟩ := Reading.token?_spec hv read
  · exact absurd hkind (hv.kind_ne_endOfText pushes)
  · refine ⟨word, more, ?_, hlexeme, hstart, hstop⟩
    rw [List.append_assoc, ← hbody, Lexer.lead_append_body]

/-- The word of a token that is found at a place. -/
theorem word_of_place {text : List Glyph} {p : Point} {before rest lead w : List Glyph} {token : Token}
    (split : text = before ++ (lead ++ w ++ rest)) (place : p = Point.origin.behind before)
    (start : token.start = p.behind lead) (stop : token.stop = p.behind (lead ++ w)) :
    token.word text = w := by
  rw [Token.word, start, stop, place, ← Point.behind_append, ← Point.behind_append,
    Point.origin_behind_byte, Point.origin_behind_byte, ← List.append_assoc, split]
  have hword := Glyph.between_word (before ++ lead) w rest
  simpa using hword

theorem Reads.spans {text : List Glyph} {tokens : List Token} {r : Reading}
    (h : Reads text tokens r) : ∀ token ∈ tokens, token.kind ≠ .endOfText ∧ token.Spans text := by
  induction h with
  | start => nofun
  | push reached split place read pushes ih =>
    intro token htoken
    rcases List.mem_append.1 htoken with htoken | htoken
    · exact ih token htoken
    · obtain rfl := List.mem_singleton.1 htoken
      exact ⟨reached.viable.kind_ne_endOfText pushes,
        spans_of_pushes reached.viable split place read pushes⟩

/-- What may stand between two tokens: white space, and a byte order mark before all of it. -/
def IsGap (before gap : List Glyph) : Prop :=
  ∃ mark blanks, gap = mark ++ blanks ∧ (∀ g ∈ blanks, g.isBlank = true) ∧
    (mark = [] ∨ before = [] ∧ mark = [.byteOrderMark])

theorem IsGap.append {before gap blanks : List Glyph} (h : IsGap before gap)
    (blank : ∀ g ∈ blanks, g.isBlank = true) : IsGap before (gap ++ blanks) := by
  obtain ⟨mark, first, rfl, hfirst, hmark⟩ := h
  exact ⟨mark, first ++ blanks, List.append_assoc .., List.forall_mem_append.2 ⟨hfirst, blank⟩, hmark⟩

theorem isGap_lead {before : List Glyph} (text : List Glyph) :
    IsGap before (Lexer.lead (Point.origin.behind before) text) := by
  obtain ⟨mark, hmark, hcase⟩ := Lexer.exists_mark (Point.origin.behind before) text
  obtain ⟨blanks, hblanks, hall⟩ := Lexer.exists_gap (Point.origin.behind before) text
  refine ⟨mark, blanks, ?_, hall, ?_⟩
  · refine List.append_cancel_right (?_ : _ ++ Lexer.body (Point.origin.behind before) text = _ ++ _)
    rw [Lexer.lead_append_body, List.append_assoc, ← hblanks, ← hmark]
  · split at hcase
    · next h =>
      rw [Point.origin_behind_byte] at h
      exact .inr ⟨Glyph.eq_nil_of_totalSize h.1, hcase⟩
    · exact .inl hcase

/-- The front of a text, laid out in tokens with gaps before them. -/
inductive Laid : List Glyph → List Token → Prop where
  | nil : Laid [] []
  | snoc {before gap word : List Glyph} {tokens : List Token} {token : Token}
      (front : Laid before tokens) (isGap : IsGap before gap)
      (lexeme : Grammar.IsLexeme token.kind word)
      (start : token.start = Point.origin.behind (before ++ gap))
      (stop : token.stop = Point.origin.behind (before ++ gap ++ word)) :
      Laid (before ++ gap ++ word) (tokens ++ [token])

/-- A run has laid out the text up to the place where it stands. -/
theorem Reads.laid {text : List Glyph} {tokens : List Token} {r : Reading}
    (h : Reads text tokens r) : ∃ before rest, text = before ++ rest ∧
      r.point = Point.origin.behind before ∧ Laid before tokens := by
  induction h with
  | start => exact ⟨[], text, rfl, rfl, .nil⟩
  | @push tokens r before rest token stack reached split place read pushes ih =>
    obtain ⟨before', rest', split', place', hlaid⟩ := ih
    obtain ⟨rfl, rfl⟩ := Point.eq_of_behind (split.symm.trans split') (place.symm.trans place')
    obtain ⟨word, more, hrest, hlexeme, hstart, hstop⟩ := reached.viable.exists_word read pushes
    rw [place] at hrest hstart hstop
    refine ⟨_, more, ?_, ?_, .snoc hlaid (isGap_lead rest) hlexeme ?_ ?_⟩
    · rw [split, List.append_assoc, List.append_assoc, ← List.append_assoc _ word, ← hrest]
    · rw [hstop, List.append_assoc, Point.behind_append Point.origin]
    · rw [hstart, Point.behind_append Point.origin]
    · rw [hstop, List.append_assoc, Point.behind_append Point.origin]

theorem Laid.length_le {before : List Glyph} {tokens : List Token} (h : Laid before tokens) :
    tokens.length ≤ before.length := by
  induction h with
  | nil => exact Nat.le_refl _
  | snoc _ _ lexeme _ _ ih =>
    have hword := List.length_pos_iff.2 (Lexer.ne_nil_of_isLexeme lexeme)
    simp only [List.length_append, List.length_singleton]
    omega

/-- A run over a text that accepts, the tokens it has pushed, and its tree. -/
inductive Accepts (text : List Glyph) : List Token → Tree → Prop where
  | mk {tokens : List Token} {r : Reading} {before rest : List Glyph} {token : Token}
      {stack : Stack} {root : Tree} (reads : Reads text tokens r) (split : text = before ++ rest)
      (place : r.point = Point.origin.behind before) (read : r.token? rest = some token)
      (completes : Completes token r.stack stack)
      (accepts : step ground token stack = .accepted root) : Accepts text tokens root

theorem exists_accepts {text : List Glyph} {root : Tree} (h : Recognises text root) :
    ∃ tokens, Accepts text tokens root := by
  obtain ⟨reached, split, place, read, completes, accepts⟩ := h
  obtain ⟨tokens, hreads⟩ := exists_reads reached
  exact ⟨tokens, .mk hreads split place read completes accepts⟩

theorem Accepts.recognises {text : List Glyph} {tokens : List Token} {root : Tree}
    (h : Accepts text tokens root) : Recognises text root := by
  obtain ⟨reads, split, place, read, completes, accepts⟩ := h
  exact .accept reads.reaches split place read completes accepts

theorem Accepts.tokens_eq {text : List Glyph} {tokens : List Token} {root : Tree}
    (h : Accepts text tokens root) : root.tokens = tokens := by
  obtain @⟨r, _, _, token, stack, _, reads, _, _, _, completes, accepts⟩ := h
  have htokens := reads.viable.tokens_completes completes
  rw [reads.tokens_eq] at htokens
  cases (reads.viable.completes completes).outcome_of_step accepts with
  | accept _ _ alone _ _ =>
    rw [← htokens, alone, Stack.tokens_append, Stack.tokens_cons, Stack.tokens_eq, Stack.tokens_eq]
    simp only [Tree.tokens, Tree.tokensOfAll_eq, List.flatMap_append]

/-- Where a run accepts nothing is left of the text but a gap. -/
theorem Accepts.laid {text : List Glyph} {tokens : List Token} {root : Tree}
    (h : Accepts text tokens root) : ∃ before gap, text = before ++ gap ∧ Laid before tokens ∧
      IsGap before gap := by
  obtain @⟨r, before, rest, token, stack, _, reads, split, place, read, completes, accepts⟩ := h
  obtain ⟨before', rest', split', place', hlaid⟩ := reads.laid
  obtain ⟨rfl, rfl⟩ := Point.eq_of_behind (split.symm.trans split') (place.symm.trans place')
  cases (reads.viable.completes completes).outcome_of_step accepts with
  | accept _ kind _ _ _ =>
    obtain ⟨_, ⟨_, hbody, _⟩ | ⟨word, _, _, hlexeme, _⟩⟩ := Reading.token?_spec reads.viable read
    · refine ⟨_, _, split, hlaid, ?_⟩
      have hlead := Lexer.lead_append_body r.point rest
      rw [hbody, List.append_nil, place] at hlead
      rw [← hlead]
      exact isGap_lead rest
    · rw [kind] at hlexeme
      exact absurd hlexeme Lexer.not_isLexeme_endOfText

end Numscript.Parser
