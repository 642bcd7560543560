import Numscript.Proofs.Automaton.Walk
import Numscript.Proofs.Lexer.Own

/-!
# Between statements

Where a statement may begin, the parsing automaton goes on in the same way, whatever statements lie behind
it. So the symbols of a statement are a walk to the same state in every program, and the tokens that may
begin a statement complete the one before it just as the end of the text does.
-/
namespace Numscript.Automaton

open Grammar (Item productions)

/-- What may lie on a stack where a statement may begin: the children of a program. -/
def programWords : List (List Symbol) := (productions .program).map Reduction.children

/-- What a statement may be begun with, up to the statement itself. -/
def openers : List Symbol :=
  [.terminal .kwSend, .terminal .kwSave, .terminal .kwOverdraft, .terminal .identifier,
   .nonterminal .sendStatement, .nonterminal .saveStatement, .nonterminal .fnCallStatement,
   .nonterminal .functionCall]

/-- The tokens that may stand behind a statement. -/
def closers : List Terminal := [.endOfText, .kwSend, .kwSave, .kwOverdraft, .identifier]

theorem programWords_eq : programWords = [[.nonterminal .varsDeclaration],
    [.nonterminal .varsDeclaration, .nonterminal .statements], [], [.nonterminal .statements]] := by
  decide +kernel

theorem nil_mem_programWords : [] ∈ programWords := by
  simp [programWords_eq]

theorem statements_mem_programWords : [.nonterminal .statements] ∈ programWords := by
  simp [programWords_eq]

theorem walk_openers : ∀ w ∈ programWords, ∀ x ∈ openers, walk start (w ++ [x]) = walk start [x] := by
  decide +kernel

theorem before_program : ∀ page ∈ pages, ∀ s ∈ page, ∀ e ∈ s.reductions,
    e.1.phrase = .program → e.2 = [.endOfText] := by
  decide +kernel

theorem eq_endOfText_of_program {q : Nat} {t : Terminal} {r : Reduction} (asks : reduction? q t = some r)
    (phrase : r.phrase = .program) : t = .endOfText := by
  obtain ⟨s, hs, hr⟩ := Option.bind_eq_some_iff.1 asks
  obtain ⟨page, hpage, hmem⟩ := mem_pages_of_state? hs
  obtain ⟨before, hbefore, ht⟩ := State.mem_reductions hr
  have honly : before = [.endOfText] := before_program page hpage s hmem _ hbefore phrase
  rw [honly] at ht
  exact List.mem_singleton.1 ht

theorem reduction?_closers : ∀ q ∈ List.range stateCount, ∀ r ∈ reduction? q .endOfText,
    r.phrase = .program ∨ ∀ t ∈ closers, reduction? q t = some r := by
  decide +kernel

/-- What a state does where a statement may begin, behind some children of a program. -/
structure Begins (w : List Symbol) (q : Nat) (t : Terminal) : Prop where
  /-- Nothing is completed but the program. -/
  completes : reduction? q t = if t = .endOfText then some ⟨.program, w.length, .plain⟩ else none
  /-- What is pushed begins a statement, or the declaration of the variables. -/
  pushes : (leads? q (.terminal t)).isSome = true → t = .kwVars ∨ .terminal t ∈ openers ∧ t ∈ closers
  /-- All that a statement begins with is pushed. -/
  opens : .terminal t ∈ openers → (leads? q (.terminal t)).isSome = true
  /-- Nothing else is read than what may stand behind a statement. -/
  reads : acts q t = true → t.isComment = true ∨ t = .kwVars ∨ t ∈ closers
  closes : t ∈ closers → acts q t = true

instance (w : List Symbol) (q : Nat) (t : Terminal) : Decidable (Begins w q t) :=
  decidable_of_iff (_ ∧ _ ∧ _ ∧ _ ∧ _)
    ⟨fun ⟨h₁, h₂, h₃, h₄, h₅⟩ => ⟨h₁, h₂, h₃, h₄, h₅⟩, fun ⟨h₁, h₂, h₃, h₄, h₅⟩ => ⟨h₁, h₂, h₃, h₄, h₅⟩⟩

theorem begins_of_walk {w : List Symbol} {q : Nat} (hw : w ∈ programWords) (hq : walk start w = some q)
    (t : Terminal) : Begins w q t := by
  have hall : ∀ w ∈ programWords, ∀ q ∈ walk start w, ∀ t ∈ Terminal.all, Begins w q t := by
    decide +kernel
  exact hall w hw q hq t (Terminal.mem_all t)

/-- A phrase that begins like a statement, and may stand where one does, is one or begins one. -/
theorem openers_phrase : ∀ w ∈ programWords, ∀ q ∈ walk start w, ∀ n ∈ Nonterminal.all,
    (goto? q n).isSome = true → ∀ p ∈ productions n,
      (Reduction.children p).head?.any openers.contains = true →
        .nonterminal n ∈ openers ∨ n = .statement := by
  decide +kernel

/-- What a state does behind a statement, and some children of a program before it. -/
structure Ended (w : List Symbol) (q : Nat) (t : Terminal) : Prop where
  /-- Nothing is pushed. -/
  holds : leads? q (.terminal t) = none
  /-- The statement is put to the statements before it. -/
  completes : reduction? q t = if t ∈ closers then
    some ⟨.statements, if .nonterminal .statements ∈ w then 2 else 1, .plain⟩ else none
  reads : acts q t = true → t.isComment = true ∨ t ∈ closers
  closes : t ∈ closers → acts q t = true

instance (w : List Symbol) (q : Nat) (t : Terminal) : Decidable (Ended w q t) :=
  decidable_of_iff (_ ∧ _ ∧ _ ∧ _)
    ⟨fun ⟨h₁, h₂, h₃, h₄⟩ => ⟨h₁, h₂, h₃, h₄⟩, fun ⟨h₁, h₂, h₃, h₄⟩ => ⟨h₁, h₂, h₃, h₄⟩⟩

theorem ended_of_walk {w : List Symbol} {q : Nat} (hw : w ∈ programWords)
    (hq : walk start (w ++ [.nonterminal .statement]) = some q) (t : Terminal) : Ended w q t := by
  have hall : ∀ w ∈ programWords, ∀ q ∈ walk start (w ++ [.nonterminal .statement]), ∀ t ∈ Terminal.all,
      Ended w q t := by
    decide +kernel
  exact hall w hw q hq t (Terminal.mem_all t)

theorem not_openers_second : ∀ n ∈ Nonterminal.all, ∀ p ∈ productions n, ∀ w ∈ programWords, w ≠ [] →
    ∀ x ∈ openers, ¬ (w ++ [x]) <+: Reduction.children p := by
  decide +kernel

end Numscript.Automaton
