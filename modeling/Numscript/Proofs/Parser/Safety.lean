import Numscript.Proofs.Packed.Agreement
import Numscript.Proofs.Parser.Frontier

/-!
# Safety

No run of the machine asks a table for an entry it does not have. `Secure` says what a step before a
lookahead can look up and what becomes of it. The entry of the state on top, the states that complete
phrases lead to, the fields and the aliases of a reduction are all read from the packed tables, and a read
that left its table would answer nothing. `secure_of_standing` proves it for every stack that any run over
any text comes to, before any lookahead, with all the comments between the phrases.

A run ends when the program is accepted or when the lookahead has an entry without actions in the state on
top. Where no token can be read, there is no symbol to have actions.
-/
namespace Numscript.Parser

open Automaton (Reduction Asks goto? action? state? stateCount)

/-- A stack that some run over a text comes to, and the token it stands before. -/
inductive Configuration (text : List Glyph) : Stack → Token → Prop where
  | mk {r : Reading} {before rest : List Glyph} {token : Token} {stack : Stack}
      (reached : Reaches text r) (split : text = before ++ rest)
      (place : r.point = Point.origin.behind before) (read : r.token? rest = some token)
      (completes : Completes token r.stack stack) : Configuration text stack token

theorem Configuration.viable {text : List Glyph} {stack : Stack} {token : Token}
    (h : Configuration text stack token) : Viable stack := by
  obtain ⟨reached, _, _, _, completes⟩ := h
  exact (viable_of_reaches reached).completes completes

/-- A stack that some run over a text comes to, and its lookahead: a token, or nothing where the text
behind the stack holds no token. -/
inductive Standing (text : List Glyph) : Stack → Option Token → Prop where
  | before {stack : Stack} {token : Token} (h : Configuration text stack token) :
      Standing text stack (some token)
  | unread {r : Reading} {before rest : List Glyph} (reached : Reaches text r)
      (split : text = before ++ rest) (place : r.point = Point.origin.behind before)
      (read : r.token? rest = none) : Standing text r.stack none

theorem Standing.viable {text : List Glyph} {stack : Stack} {lookahead : Option Token}
    (h : Standing text stack lookahead) : Viable stack := by
  cases h with
  | before h => exact h.viable
  | unread reached => exact viable_of_reaches reached

/-- The entry for a lookahead in a state, by the number of its symbol. -/
def entryFor? (q : Nat) (lookahead : Option Token) : Option (List Packed.Slot) :=
  Packed.actionsFor? q (lookahead.elim Symbol.errorIndex (·.kind.index))

/-- A reduction finds on a stack all that it needs. -/
structure Reducible (stack : Stack) (r : Reduction) : Prop where
  /-- Its children lie above the bottom of the stack, with comments anywhere between them, and the state
  below them has a value for the phrase. -/
  children : r.arity ≤ stack.plain.length ∧
    ∃ taken rest next, stack.bare = taken ++ rest ∧ taken.plain.length = r.arity ∧
      Packed.value? rest.state r.phrase.index = some next ∧ next ≠ 0 ∧ next < stateCount ∧
      reduce ground r stack = .reduced (stack.comments.map (fun f => { f with state := next }) ++
        ⟨next, .node r.phrase r.layout (taken.map (·.tree)).reverse⟩ :: rest)
  /-- The fields of its production are there, and all belong to children that it has. -/
  fields : ∃ entries, Packed.fields? r.layout.index = some entries ∧ (∀ e ∈ entries, e.2 < r.arity) ∧
    ∀ e, e ∈ entries ↔ ∃ f : Field, f.index = e.1 ∧ r.layout.field? e.2 = some f
  /-- Each of its children has a place in the row of aliases, and no other place has an alias. -/
  aliases : (∀ place < r.arity,
    Packed.alias? r.layout.index place = some ((r.layout.alias? place).elim 0 Alias.index)) ∧
    ∀ place a, r.layout.alias? place = some a → place < r.arity

/-- All that a step before a lookahead looks up is there, and the step comes to something. -/
structure Secure (stack : Stack) (lookahead : Option Token) : Prop where
  /-- All states of the stack are states of the automaton. -/
  states : ∀ f ∈ stack, f.state < stateCount
  /-- The state on top has its row, and in it a mode of the lexer. -/
  row : ∃ s, state? stack.state = some s ∧ s.mode < Lexer.stateCount
  /-- The entry for the lookahead is there, and says what the automaton does with it. -/
  entry : entryFor? stack.state lookahead =
    some (Packed.actionsOf (lookahead.bind fun token => action? stack.state token.kind))
  /-- A reduction finds what it needs, also where the token is pushed beside it. -/
  reduces : ∀ token ∈ lookahead, ∀ r, Asks stack.state token.kind r → Reducible stack r
  /-- The run goes on, or the program is accepted, or the entry has no actions. -/
  ends : ∀ token ∈ lookahead, match step ground token stack with
    | .shifted t | .reduced t => ∀ f ∈ t, f.state < stateCount
    | .forked t u => (∀ f ∈ t, f.state < stateCount) ∧ ∀ f ∈ u, f.state < stateCount
    | .accepted _ => entryFor? stack.state lookahead = some [.accept] ∧
        ∃ q layout children, stack.plain = [⟨q, .node .program layout children⟩]
    | .refused => entryFor? stack.state lookahead = some []
    | .short | .stuck => False

theorem mode_of_mem : ∀ page ∈ Automaton.pages, ∀ s ∈ page, s.mode < Lexer.stateCount := by
  decide +kernel

theorem Viable.row {stack : Stack} (h : Viable stack) :
    ∃ s, state? stack.state = some s ∧ s.mode < Lexer.stateCount := by
  obtain ⟨s, hs⟩ := h.exists_state
  obtain ⟨page, hpage, hmem⟩ := Automaton.mem_pages_of_state? hs
  exact ⟨s, hs, mode_of_mem page hpage s hmem⟩

theorem Viable.entryFor? {stack : Stack} (h : Viable stack) (lookahead : Option Token) :
    entryFor? stack.state lookahead =
      some (Packed.actionsOf (lookahead.bind fun token => action? stack.state token.kind)) := by
  cases lookahead with
  | none => rfl
  | some token => exact Packed.actionsFor?_terminal h.state_lt token.kind

theorem arity_le_of_mem : ∀ page ∈ Automaton.pages, ∀ s ∈ page, ∀ e ∈ s.reductions,
    e.1.arity ≤ Packed.aliasLength := by
  decide +kernel

theorem arity_le_of_reduction {q : Nat} {t : Terminal} {r : Reduction}
    (h : Automaton.reduction? q t = some r) : r.arity ≤ Packed.aliasLength := by
  obtain ⟨s, hs, hr⟩ := Option.bind_eq_some_iff.1 h
  obtain ⟨page, hpage, hmem⟩ := Automaton.mem_pages_of_state? hs
  obtain ⟨before, hentry, -⟩ := Automaton.State.mem_reductions hr
  exact arity_le_of_mem page hpage s hmem _ hentry

theorem Viable.reducible {stack : Stack} {t : Terminal} (h : Viable stack) {r : Reduction}
    (hr : Asks stack.state t r) : Reducible stack r := by
  have hreduction := Automaton.reduction?_of_asks hr
  obtain ⟨kept, hkept, hreduces⟩ := h.reduce hreduction
  have hkept' := h.of_reduces hreduces
  have hlt := hkept'.states_lt
  refine ⟨?_, ?_, fun place hplace => ?_, fun _ _ ha => Automaton.lt_arity_of_alias? hreduction ha⟩
  · cases hreduces with
    | @mk children rest next pop leads _ =>
      obtain ⟨taken, hbare, hchildren, hcount⟩ := Stack.pop_eq_some pop
      rw [List.append_nil] at hchildren
      subst hchildren
      have hplain : r.arity ≤ stack.plain.length := by
        rw [← Stack.bare_plain, hbare, Stack.plain, List.filter_append, List.length_append]
        omega
      have hvalue : Packed.value? rest.state r.phrase.index = some next := by
        rw [Packed.value?_nonterminal hkept'.of_append.tail.state_lt, leads, Option.getD_some]
      have hne := Automaton.leads?_ne_recovery (x := .nonterminal r.phrase) leads
      exact ⟨hplain, taken, rest, next, hbare, hcount, hvalue, hne,
        hlt ⟨next, .node r.phrase r.layout (taken.map (·.tree)).reverse⟩ (by simp), hkept⟩
  · obtain ⟨entries, hentries, hfields⟩ := Packed.fields?_layout r.layout
    refine ⟨entries, hentries, fun e he => ?_, hfields⟩
    obtain ⟨f, -, hf⟩ := (hfields e).1 he
    exact Automaton.lt_arity_of_field? hreduction hf
  · exact Packed.alias?_layout r.layout (Nat.lt_of_lt_of_le hplace (arity_le_of_reduction hreduction))

theorem Viable.secure {stack : Stack} (h : Viable stack) (lookahead : Option Token) :
    Secure stack lookahead where
  states := h.states_lt
  row := h.row
  entry := h.entryFor? lookahead
  reduces _ _ _ hr := h.reducible hr
  ends := by
    rintro token rfl
    have hentry := h.entryFor? (some token)
    have ho := h.outcome token
    generalize hstep : step ground token stack = outcome at ho
    cases ho with
    | shift plain leads _ => exact (h.push plain leads).states_lt
    | pass comment => exact (h.pass comment).states_lt
    | reduce _ _ _ reduces => exact (h.of_reduces reduces).states_lt
    | fork plain leads _ reduces =>
      exact ⟨(h.push plain leads).states_lt, (h.of_reduces reduces).states_lt⟩
    | @accept upper lower layout children final kind alone above under =>
      refine ⟨?_, Automaton.final, layout, children, ?_⟩
      · rw [hentry, Option.bind_some, final, kind, Automaton.action?_final]
        rfl
      · rw [alone, Stack.plain_alone above under rfl]
    | refuse nothing =>
      rw [hentry, Option.bind_some, nothing]
      rfl

/-- Whatever the text, no run over it ever asks for an entry that the tables do not have. -/
theorem secure_of_standing (text : List Glyph) {stack : Stack} {lookahead : Option Token}
    (h : Standing text stack lookahead) : Secure stack lookahead :=
  h.viable.secure lookahead

/-- A reading on the frontier stands before the token behind it. -/
theorem configuration_of_mem_frontierAt {text : List Glyph} {place : Nat} (inside : place ≤ text.length)
    {r : Reading} (h : r ∈ frontierAt text place) {token : Token}
    (read : r.point = Point.origin.behind (text.take place) ∧ r.token? (text.drop place) = some token) :
    Configuration text r.stack token :=
  .mk (frontier_of_mem_frontierAt inside h).reaches (List.take_append_drop place text).symm read.1 read.2
    (.refl r.stack)

/-- A call with a comment between its parentheses. -/
def commentedCall : List Glyph := "f(/**/)".toList.map fun c => .char c.toNat

/-- A destination up to the word behind `remaining`, with a comment in between. -/
def openRemainder : List Glyph :=
  "send $m (source = $a destination = \x7bremaining/**/to".toList.map fun c => .char c.toNat

/--
At the end of a call, its parts are reduced with the comment among them. At the word behind `remaining`
the word is pushed, and beside that `remaining` is reduced below the comment. Where no token starts, the
lookahead has no actions.
-/
theorem secure_beside_comments :
    let atEnd : Token := ⟨.endOfText, ⟨7, 0, 7⟩, ⟨7, 0, 7⟩⟩
    let atWord : Token := ⟨.kwTo, ⟨49, 0, 49⟩, ⟨51, 0, 51⟩⟩
    (∃ stack, Configuration commentedCall stack atEnd ∧
      stack.map (·.tree.isComment) = [false, true, false, false] ∧
      Asks stack.state atEnd.kind ⟨.functionCall, 3, .call⟩ ∧ Secure stack (some atEnd)) ∧
    (∃ stack, Configuration openRemainder stack atWord ∧
      (stack.map (·.tree.isComment)).take 2 = [true, false] ∧
      action? stack.state atWord.kind = some (.both 22 ⟨.remainingAllotment, 1, .plain⟩) ∧
      Secure stack (some atWord)) ∧
    Standing [.char 0x23] [] none ∧ Secure [] none := by
  intro atEnd atWord
  have hcall : ∃ r ∈ frontierAt commentedCall 7,
      (r.point = Point.origin.behind (commentedCall.take 7) ∧
        r.token? (commentedCall.drop 7) = some atEnd) ∧
      r.stack.map (·.tree.isComment) = [false, true, false, false] ∧
      action? r.stack.state atEnd.kind = some (.reduce ⟨.functionCall, 3, .call⟩) := by
    decide +kernel
  have hremainder : ∃ r ∈ frontierAt openRemainder 49,
      (r.point = Point.origin.behind (openRemainder.take 49) ∧
        r.token? (openRemainder.drop 49) = some atWord) ∧
      (r.stack.map (·.tree.isComment)).take 2 = [true, false] ∧
      action? r.stack.state atWord.kind = some (.both 22 ⟨.remainingAllotment, 1, .plain⟩) := by
    decide +kernel
  obtain ⟨r, hr, hread, hcomments, hreduces⟩ := hcall
  obtain ⟨s, hs, hread', hcomments', hboth⟩ := hremainder
  have hr := configuration_of_mem_frontierAt (by decide) hr hread
  have hs := configuration_of_mem_frontierAt (by decide) hs hread'
  have hunread : Standing [.char 0x23] [] none :=
    .unread .start (List.nil_append _).symm rfl (by decide +kernel)
  exact ⟨⟨r.stack, hr, hcomments, .inl hreduces, secure_of_standing _ (.before hr)⟩,
    ⟨s.stack, hs, hcomments', hboth, secure_of_standing _ (.before hs)⟩, hunread,
    secure_of_standing _ hunread⟩

end Numscript.Parser
