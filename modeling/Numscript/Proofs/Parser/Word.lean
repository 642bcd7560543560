import Numscript.Proofs.Lexer.Keyword
import Numscript.Proofs.Parser.Lookahead
import Numscript.Proofs.Parser.Run
import Numscript.Proofs.Parser.Safety
import Numscript.Proofs.Parser.Walk
import Numscript.Proofs.Tree.Source

/-!
# Words that are pushed as identifiers

An identifier that is spelled like a keyword is met in a state that does not act on the keyword, and no
phrase that is completed before it leads to a state that does. Where the name of a call may stand, so may
the keyword `overdraft`. So the name of a call is never an identifier that is spelled like it.
-/
namespace Numscript

open Grammar (keywords)

namespace Automaton

/-- Whether a state that completes a phrase before an identifier acts on all keywords that are acted on
behind the phrase. -/
def keepsKeywords (n : Nonterminal) (behind last : Nat) : Bool :=
  match reduction? last .identifier with
  | some r => r.phrase != n || !acts behind .identifier ||
      keywords.all fun k => !acts behind k || acts last k
  | none => true

theorem keepsKeywords_of_reading {q last behind : Nat} {n : Nonterminal} {p : List Grammar.Item}
    (hp : p ∈ Grammar.productions n) (hw : walk q (Reduction.children p) = some last)
    (hq : goto? q n = some behind) : keepsKeywords n behind last = true :=
  of_everyReading (by decide +kernel) hp hw hq

/-- The state behind the type of a variable. -/
def behindType : Nat := 614

theorem behindType_or_acts : ∀ q < stateCount, ∀ n ∈ leads? q (.terminal .identifier),
    n = behindType ∨ acts q .kwOverdraft = true := by
  decide +kernel

theorem goals_behindType : ∀ g ∈ goals behindType, g.reduction.phrase = .varDeclaration := by
  decide +kernel

/-- A statement may be a call, of `overdraft` as of any other function. -/
example : leads? start (.terminal .identifier) = some 593 ∧ acts start .kwOverdraft = true := by
  decide +kernel

end Automaton

namespace Parser

open Automaton (Reduction acts leads? goto? reduction? goals action?)
open Lexer (Spells)

/-- A keyword that is acted on behind a phrase was acted on before the phrase was completed. -/
theorem Viable.acts_of_reduces {s kept : Stack} {r : Reduction} (h : Viable s)
    (asks : reduction? s.state .identifier = some r) (reduces : Reduces r s kept)
    (more : acts kept.state .identifier = true) {k : Terminal} (hk : k ∈ keywords)
    (hacts : acts kept.state k = true) : acts s.state k = true := by
  obtain ⟨q, p, hp, hwalk, hgoto⟩ := h.walk_of_reduces asks reduces
  have hkeeps := Automaton.keepsKeywords_of_reading hp hwalk hgoto
  simp only [Automaton.keepsKeywords, asks, bne_self_eq_false, more, Bool.not_true, Bool.false_or,
    List.all_eq_true, Bool.or_eq_true, Bool.not_eq_true'] at hkeeps
  exact (hkeeps k hk).resolve_left (by simp [hacts])

theorem Viable.acts_of_completes {token : Token} {s t : Stack} {e : Ending} (h : Viable s)
    (hc : Completes token s t) (kind : token.kind = .identifier) (settles : Settles token t e)
    {k : Terminal} (hk : k ∈ keywords) (hacts : acts t.state k = true) :
    acts s.state k = true := by
  refine hc.viable_induction_on (motive := fun s => acts s.state k = true) h hacts ?_
  intro s u r hv _ asks reduces rest later
  have hidentifier := (Settles.of_completes (hv.of_reduces reduces) rest settles).acts
  rw [kind] at asks hidentifier
  exact hv.acts_of_reduces asks reduces hidentifier hk later

/-- An identifier is met in a state that does not act on the keyword that it spells. -/
theorem Viable.not_acts_of_spells {text before rest : List Glyph} {r : Reading} {token : Token}
    {e : Ending} (hv : Viable r.stack) (split : text = before ++ rest)
    (place : r.point = Point.origin.behind before) (read : r.token? rest = some token)
    (settles : Settles token r.stack e) (kind : token.kind = .identifier) {k : Terminal}
    (hk : k ∈ keywords) (spells : Spells k (token.word text)) : acts r.stack.state k ≠ true := by
  intro hacts
  have hfirst : ∀ k ∈ keywords, k.index < Terminal.identifier.index := by decide
  have hidentifier := settles.acts
  obtain ⟨mode, hmode, _, hfinds⟩ := Reading.finds hv read hidentifier
  cases hfinds with
  | ends => cases kind
  | @word t w more munch =>
    obtain rfl : t = .identifier := kind
    have hsplit : text = before ++ (Lexer.lead r.point rest ++ w ++ more) := by
      rw [List.append_assoc, ← munch.split, Lexer.lead_append_body, split]
    rw [word_of_place hsplit place rfl rfl] at spells
    rw [Automaton.acts_eq_isSome hv.state_ne_recovery] at hidentifier hacts
    have hexpected := ((Lexer.findsWords hv.state_ne_recovery hmode hidentifier).keyword k hk).2 hacts
    have hleast := munch.isLeast k
      (Lexer.fits_initial_iff.2 ⟨hexpected, (Lexer.spells_iff hk).1 spells⟩)
    exact absurd hleast (Nat.not_le_of_lt (hfirst k hk))

/-- Where a run is about to push an identifier, its state does not act on the keyword that it spells. -/
theorem Configuration.not_acts {text : List Glyph} {stack t : Stack} {token : Token}
    (h : Configuration text stack token) (pushes : Pushes token stack t)
    (kind : token.kind = .identifier) {k : Terminal} (hk : k ∈ keywords)
    (spells : Spells k (token.word text)) : acts stack.state k ≠ true := by
  obtain ⟨reached, split, place, read, completes⟩ := h
  have hv := viable_of_reaches reached
  have hsettles := (Ends.pushed pushes).settles (hv.completes completes)
  intro hacts
  exact hv.not_acts_of_spells split place read (.of_completes hv completes hsettles) kind hk spells
    (hv.acts_of_completes completes kind hsettles hk hacts)

/-- The tokens that a run has pushed were about to be pushed. -/
theorem Reads.exists_configuration {text : List Glyph} {tokens : List Token} {r : Reading}
    (h : Reads text tokens r) {token : Token} (htoken : token ∈ tokens) :
    ∃ stack t, Configuration text stack token ∧ Pushes token stack t := by
  induction h with
  | start => cases htoken
  | push reached split place read pushes ih =>
    rcases List.mem_append.1 htoken with htoken | htoken
    · exact ih htoken
    · obtain rfl := List.mem_singleton.1 htoken
      exact ⟨_, _, .mk reached.reaches split place read (.refl _), pushes⟩

theorem Accepts.exists_configuration {text : List Glyph} {tokens : List Token} {root : Tree}
    (h : Accepts text tokens root) {token : Token} (htoken : token ∈ tokens) :
    ∃ stack t, Configuration text stack token ∧ Pushes token stack t := by
  obtain ⟨reads, _⟩ := h
  exact reads.exists_configuration htoken

/-- The goals of a reduction are met in every state between the children that it takes off a stack. -/
theorem Viable.goal_of_pop {stack : Stack} (h : Viable stack) {r : Reduction} {count : Nat}
    (goal : ⟨r, count⟩ ∈ goals stack.state) {above children : List Tree} {rest : Stack}
    (pop : stack.pop count above = some (children, rest)) : ∀ t ∈ children,
      t.isComment = true ∨ t ∈ above ∨ ∃ f ∈ stack, f.tree = t ∧ ∃ place, ⟨r, place⟩ ∈ goals f.state := by
  induction h generalizing count above with
  | empty =>
    cases count with
    | zero =>
      cases pop
      exact fun t ht => .inr (.inl ht)
    | succ count => cases pop
  | @comment stack tree below hc ih =>
    cases count with
    | zero =>
      cases pop
      exact fun t ht => .inr (.inl ht)
    | succ count =>
      rw [Stack.pop, if_pos hc] at pop
      intro t ht
      obtain hcomment | habove | ⟨f, hf, hgoal⟩ := ih goal pop t ht
      · exact .inl hcomment
      · rcases List.mem_cons.1 habove with rfl | habove
        · exact .inl hc
        · exact .inr (.inl habove)
      · exact .inr (.inr ⟨f, List.mem_cons_of_mem _ hf, hgoal⟩)
  | @read stack tree next below hr leads ih =>
    obtain ⟨place, hread, _, _, hlater⟩ := Automaton.goal_before leads goal
    obtain rfl : count = place + 1 := hread
    rw [Stack.pop, if_neg (by simp [hr])] at pop
    have hpopped : ∀ t ∈ children, t.isComment = true ∨ t ∈ tree :: above ∨
        ∃ f ∈ stack, f.tree = t ∧ ∃ place, ⟨r, place⟩ ∈ goals f.state := by
      cases place with
      | zero =>
        rw [Stack.pop] at pop
        cases pop
        exact fun t ht => .inr (.inl ht)
      | succ place => exact ih (hlater (Nat.succ_ne_zero place)) pop
    intro t ht
    obtain hcomment | habove | ⟨f, hf, hgoal⟩ := hpopped t ht
    · exact .inl hcomment
    · rcases List.mem_cons.1 habove with rfl | habove
      · exact .inr (.inr ⟨_, List.mem_cons_self, rfl, _, goal⟩)
      · exact .inr (.inl habove)
    · exact .inr (.inr ⟨f, List.mem_cons_of_mem _ hf, hgoal⟩)

end Parser
end Numscript
