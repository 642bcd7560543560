import Numscript.Proofs.Parser.Word
import Numscript.Proofs.Tiling

/-!
# Keywords in context

The words that are keywords somewhere are names everywhere else. In a state that acts on identifiers a word
is the keyword that it spells if the state acts on that keyword, and an identifier if not. So an identifier
of a program is met where no keyword of its spelling could stand; and as `overdraft` may stand wherever a
call may begin, a call of that name has the keyword for its name.
-/
namespace Numscript

open Grammar (keywords productions satisfies)
open Automaton (Reduction action? mode? leads? reduction? behindType)
open Lexer (Spells)
open Numscript.Parser (Stack Configuration Pushes)

/-- A token that is an identifier and spelled like the keyword `overdraft`. -/
def Token.Disguised (text : List Glyph) (token : Token) : Prop :=
  token.kind = .identifier ∧ Spells .kwOverdraft (token.word text)

/-- No call within a tree has a disguised keyword among its children. -/
def Tree.CallsByKeyword (text : List Glyph) (t : Tree) : Prop :=
  ∀ layout children, Tree.Within (.node .functionCall layout children) t →
    ∀ token, .leaf token ∈ children → ¬ token.Disguised text

theorem Tree.callsByKeyword_leaf (text : List Glyph) (token : Token) :
    (Tree.leaf token).CallsByKeyword text := by
  intro layout children h
  cases h.eq_of_leaf

theorem Tree.callsByKeyword_node {text : List Glyph} {phrase : Nonterminal} {layout : Layout}
    {children : List Tree} (here : phrase = .functionCall →
      ∀ token, Tree.leaf token ∈ children → ¬ token.Disguised text)
    (below : ∀ c ∈ children, c.CallsByKeyword text) :
    (Tree.node phrase layout children).CallsByKeyword text := by
  intro layout' children' h
  cases h with
  | refl => exact here rfl
  | child mem within => exact below _ mem layout' children' within

namespace Parser

/-- A frame without calls of a disguised keyword. Such a token stands alone behind the type of a variable. -/
structure Frame.Sincere (text : List Glyph) (f : Frame) : Prop where
  calls : f.tree.CallsByKeyword text
  type : ∀ token, f.tree = .leaf token → token.Disguised text → f.state = behindType

theorem Frame.sincere_of_comment {text : List Glyph} {q : Nat} {tree : Tree} (h : tree.isComment = true) :
    Frame.Sincere text ⟨q, tree⟩ := by
  cases tree with
  | leaf token =>
    refine ⟨Tree.callsByKeyword_leaf text token, fun token' htoken disguised => ?_⟩
    obtain rfl := Tree.leaf.inj htoken
    have hcomment : token.kind.isComment = true := h
    rw [disguised.1] at hcomment
    cases hcomment
  | node => cases h

/-- A reduction keeps the frames sincere: behind the type of a variable no call is under way. -/
theorem Reduces.sincere {text : List Glyph} {stack kept : Stack} {t : Terminal} {r : Reduction}
    (hv : Viable stack) (h : ∀ f ∈ stack, Frame.Sincere text f)
    (asks : reduction? stack.state t = some r) (hr : Reduces r stack kept) :
    ∀ f ∈ kept, Frame.Sincere text f := by
  have hbelow : ∀ f ∈ stack.bare, f.Sincere text := fun f hf =>
    h f ((List.dropWhile_sublist _).subset hf)
  have hgoal := Automaton.goal_of_reduction asks
  rw [← hv.state_dropWhile] at hgoal
  refine hr.forall_frames h (fun f _ hc _ => Frame.sincere_of_comment hc) fun _ pop _ below => ?_
  have hpopped := hv.dropWhile.goal_of_pop hgoal pop
  refine ⟨Tree.callsByKeyword_node (fun hphrase token htoken disguised => ?_) fun c hc => ?_, nofun⟩
  · obtain hcomment | hnone | ⟨g, hg, htree, place, hplace⟩ := hpopped _ htoken
    · have hcomment : token.kind.isComment = true := hcomment
      rw [disguised.1] at hcomment
      cases hcomment
    · cases hnone
    · rw [(hbelow g hg).type token htree disguised] at hplace
      have hdeclaration := Automaton.goals_behindType _ hplace
      rw [hphrase] at hdeclaration
      cases hdeclaration
  · obtain ⟨g, hg, rfl⟩ := below c hc
    exact (hbelow g hg).calls

theorem Viable.sincere_completes {text : List Glyph} {token : Token} {s t : Stack} (hv : Viable s)
    (h : ∀ f ∈ s, Frame.Sincere text f) (hc : Completes token s t) :
    ∀ f ∈ t, Frame.Sincere text f :=
  hv.completes_keeps (P := fun s => ∀ f ∈ s, Frame.Sincere text f) hc h
    fun hv asks reduces h => reduces.sincere hv h asks

/-- A push keeps the frames sincere: a name of a call could be the keyword as well. -/
theorem Configuration.sincere {text : List Glyph} {stack t : Stack} {token : Token} {next : Nat}
    (h : Configuration text stack token) (pushes : Pushes token stack t)
    (leads : token.kind.isComment = true ∨
      leads? stack.state (.terminal token.kind) = some next) :
    Frame.Sincere text ⟨next, .leaf token⟩ := by
  rcases leads with hcomment | hleads
  · exact Frame.sincere_of_comment hcomment
  · refine ⟨Tree.callsByKeyword_leaf text token, fun token' htoken disguised => ?_⟩
    obtain rfl := Tree.leaf.inj htoken
    obtain ⟨kind, spells⟩ := disguised
    rw [kind] at hleads
    exact (Automaton.behindType_or_acts _ h.viable.state_lt _ hleads).resolve_right
      (h.not_acts pushes kind (by decide) spells)

theorem sincere_of_reaches {text : List Glyph} {r : Reading} (h : Reaches text r) :
    ∀ f ∈ r.stack, Frame.Sincere text f := by
  induction h with
  | start => nofun
  | push reached split place read pushes ih =>
    have hv := viable_of_reaches reached
    obtain ⟨u, next, completes, hlast, rfl, hleads⟩ := hv.exists_push pushes
    have hmeets : Configuration _ u _ := .mk reached split place read completes
    exact List.forall_mem_cons.2 ⟨hmeets.sincere hlast hleads, hv.sincere_completes ih completes⟩

theorem callsByKeyword_of_recognises {text : List Glyph} {root : Tree} (h : Recognises text root) :
    root.CallsByKeyword text := by
  obtain @⟨r, before, rest, token, stack, _, reached, split, place, read, completes, accepts⟩ := h
  have hv := viable_of_reaches reached
  have hsincere := hv.sincere_completes (sincere_of_reaches reached) completes
  cases (hv.completes completes).outcome_of_step accepts with
  | @accept upper lower layout children _ _ alone above under =>
    have hcomments : ∀ s : Stack, (∀ f ∈ s, f.tree.isComment = true) →
        ∀ c ∈ (s.map (·.tree)).reverse, c.CallsByKeyword text := by
      intro s hs c hc
      obtain ⟨f, hf, rfl⟩ := List.mem_map.1 (List.mem_reverse.1 hc)
      exact (Frame.sincere_of_comment (q := f.state) (hs f hf)).calls
    have hprogram := hsincere ⟨Automaton.final, .node .program layout children⟩ (by simp [alone])
    refine Tree.callsByKeyword_node nofun fun c hc => ?_
    rcases List.mem_append.1 hc with hc | hc
    · rcases List.mem_append.1 hc with hc | hc
      · exact hcomments lower under c hc
      · exact fun layout' children' within => hprogram.calls layout' children' (.child hc within)
    · exact hcomments upper above c hc

end Parser

theorem name_of_production : ∀ p ∈ productions .functionCall, ∀ i ∈ p, i.isRepetition = false ∧
    (i.field = some .name → i.symbol = .terminal .identifier ∨ i.symbol = .terminal .kwOverdraft) := by
  decide +kernel

/-- The text that a label spans. -/
def Label.text (source : List Glyph) (l : Label) : List Glyph :=
  Glyph.between l.start.byte l.stop.byte source

theorem Token.Spans.isLexeme {text : List Glyph} {token : Token} (h : token.Spans text) :
    Grammar.IsLexeme token.kind (token.word text) := by
  obtain ⟨before, word, after, rfl, hlexeme, hstart, hstop⟩ := h
  rw [Token.word, hstart, hstop, Point.origin_behind_byte, Point.origin_behind_byte,
    Glyph.between_word]
  exact hlexeme

/-- The name of a call is the keyword `overdraft` exactly if it is spelled like it. -/
theorem Tree.Source.name_of_call {text : List Glyph} {t : Tree} {n : Node} (h : t.Source n)
    (built : t.Built text) (calls : t.CallsByKeyword text)
    (call : n.symbol = .nonterminal .functionCall) {c : Node} (hc : c ∈ n.children)
    (name : c.field = some .name) :
    c.symbol = .terminal .kwOverdraft ↔ Spells .kwOverdraft (c.label.text text) := by
  cases h with
  | token field shows =>
    obtain rfl : _ = Symbol.nonterminal .functionCall := call
    cases shows
  | @phrase phrase layout children symbol field shows lasting =>
    obtain rfl : symbol = .nonterminal .functionCall := call
    obtain rfl : Nonterminal.functionCall = phrase := Symbol.nonterminal.inj shows
    cases built with
    | node makes below =>
      obtain ⟨d, hd, role, shown, hshows, hrole, hc⟩ :=
        Tree.exists_child_of_mem_nodesFrom makes.children hc
      cases d with
      | leaf token =>
        obtain rfl := List.mem_singleton.1 hc
        obtain rfl : role = some .name := name
        have hmem := hrole.resolve_left nofun
        have hspans : token.Spans text := by
          cases below _ hd with
          | leaf spans => exact spans
        change (Tree.leaf token).shownSymbol shown = _ ↔ Spells _ (token.word text)
        rcases (name_of_production _ makes.items _ hmem).2 rfl with hsymbol | hsymbol
        · have hkind : token.kind = .identifier :=
            (Symbol.terminal.inj ((congrArg Grammar.unaliased hsymbol).symm.trans hshows)).symm
          refine ⟨fun hkeyword => ?_, fun hspells => ?_⟩
          · rw [hkeyword] at hsymbol
            cases hsymbol
          · exact absurd ⟨hkind, hspells⟩ (calls layout children .refl token hd)
        · have hkind : token.kind = .kwOverdraft :=
            (Symbol.terminal.inj ((congrArg Grammar.unaliased hsymbol).symm.trans hshows)).symm
          refine ⟨fun _ => (Lexer.spells_iff (by decide)).2 ?_, fun _ => hsymbol⟩
          exact hkind ▸ hspans.isLexeme
      | node inner layout' children' =>
        have hmem := name_of_production _ makes.items _ (hrole.resolve_left nofun)
        have hlasting : inner.isRepetition = false := by
          cases shown with
          | none => exact hmem.1
          | some a => exact isRepetition_of_unaliased hshows
        rw [Tree.nodes, if_neg (by simp [hlasting])] at hc
        obtain rfl := List.mem_singleton.1 hc
        rcases hmem.2 name with hsymbol | hsymbol
        · cases (congrArg Grammar.unaliased hsymbol).symm.trans hshows
        · cases (congrArg Grammar.unaliased hsymbol).symm.trans hshows

/-- How a state reads words: the keyword that a word spells if the state acts on that keyword, and the whole
word as an identifier if not. -/
def TellsWords (q mode : Nat) : Prop :=
  ∀ (p : Point) (text : List Glyph),
    (∃ g ∈ (Lexer.body p text).head?, satisfies .small g = true) →
    ∃ t, (Lexer.run mode p text).token? text = some ⟨t, p.behind (Lexer.lead p text),
        p.behind (Lexer.lead p text ++ Lexer.word (Lexer.body p text))⟩ ∧
      (∀ k ∈ keywords, t = k ↔
        Spells k (Lexer.word (Lexer.body p text)) ∧ (action? q k).isSome = true) ∧
      ((∀ k ∈ keywords,
        ¬(Spells k (Lexer.word (Lexer.body p text)) ∧ (action? q k).isSome = true)) → t = .identifier)

/-- Where the identifiers of a program stand, and what its calls have for their names. -/
structure KeywordsInPlace (text : List Glyph) (root : Node) : Prop where
  /-- An identifier is pushed by some run, and wherever a run is about to push it, no keyword of its spelling
  is acted on. -/
  identifiers : ∀ l ∈ root.leaves, l.symbol = .terminal .identifier → ∃ token, Label.Shows token l ∧
    (∃ stack t, Configuration text stack token ∧ Pushes token stack t) ∧
    ∀ stack t, Configuration text stack token → Pushes token stack t →
      ∀ k ∈ keywords, Spells k (l.text text) → action? stack.state k = none
  /-- The name of a call is the keyword `overdraft` if it is spelled like it, and only then. -/
  calls : ∀ n ∈ root :: root.inside, n.symbol = .nonterminal .functionCall →
    ∀ c ∈ n.children, c.field = some .name →
      (c.symbol = .terminal .kwOverdraft ↔ Spells .kwOverdraft (c.label.text text))

theorem keywordsInPlace_of_valid (bytes : List UInt8) {root : Node}
    (h : Program.ofBytes bytes = .valid root) : KeywordsInPlace (Glyph.ofBytes bytes) root := by
  obtain ⟨tokens, tree, hparse, haccepts, hroot, hshows⟩ := exists_tokens_of_valid bytes h
  have hrecognises := Parser.recognises_of_parse hparse
  constructor
  · intro l hl hidentifier
    obtain ⟨token, htoken, hl⟩ := exists_token_of_leaf hshows hl
    obtain ⟨stack, t, hmeets, hpushes⟩ := haccepts.exists_configuration htoken
    have hkind : token.kind = .identifier := by
      have hsymbol := hl.symbol
      rw [hidentifier] at hsymbol
      exact (Symbol.terminal.inj hsymbol).symm
    refine ⟨token, hl, ⟨stack, t, hmeets, hpushes⟩, fun stack t hmeets hpushes k hk hspells => ?_⟩
    rw [Label.text, hl.start, hl.stop] at hspells
    have hnot := hmeets.not_acts hpushes hkind hk hspells
    rw [Automaton.acts_eq_isSome hmeets.viable.state_ne_recovery] at hnot
    simpa using hnot
  · intro n hn call
    obtain ⟨hbuilt, layout, children, rfl⟩ := Parser.built_of_recognises hrecognises
    rcases List.mem_cons.1 hn with rfl | hn
    · rw [hroot] at call
      cases call
    · rw [hroot] at hn
      obtain ⟨s, hs, hsource⟩ := hbuilt.exists_source_program _ n hn
      have hcalls := Parser.callsByKeyword_of_recognises hrecognises
      have hwithin : s.CallsByKeyword (Glyph.ofBytes bytes) := fun layout' children' h =>
        hcalls layout' children' (h.trans hs)
      exact fun c hc name => hsource.name_of_call (hs.built hbuilt) hwithin call hc name

/--
Where a state of a run acts on identifiers, its mode reads a word as the keyword that it spells exactly if the
state acts on that keyword, and otherwise as an identifier. So the identifiers of a valid program stand where
no keyword of their spelling could, and a call of `overdraft` has that keyword for its name.
-/
theorem keywords_in_context :
    (∀ q mode, q ≠ Automaton.recovery → mode? q = some mode → (action? q .identifier).isSome = true →
      TellsWords q mode) ∧
    ∀ (bytes : List UInt8) (root : Node), Program.ofBytes bytes = .valid root →
      KeywordsInPlace (Glyph.ofBytes bytes) root :=
  ⟨fun _ _ hq hmode hacts _ _ begins => Lexer.exists_token_of_word hq hmode hacts begins,
    fun bytes _ h => keywordsInPlace_of_valid bytes h⟩

/-- A variable of type `overdraft`, and a call of that name. -/
def overdraftTwice : List UInt8 :=
  "vars \x7b overdraft $x \x7d overdraft($x)".toList.map fun c => c.toNat.toUInt8

theorem keywords_in_overdraftTwice : ∃ root : Node,
    Program.ofBytes overdraftTwice = .valid root ∧
    KeywordsInPlace (Glyph.ofBytes overdraftTwice) root ∧ TellsWords Automaton.start 130 := by
  have hvalid : (Program.ofBytes overdraftTwice).root?.isSome = true := by decide +kernel
  have hmode : mode? Automaton.start = some 130 := by decide +kernel
  have hacts : (action? Automaton.start .identifier).isSome = true := by decide +kernel
  cases hprogram : Program.ofBytes overdraftTwice with
  | invalid furthest =>
    rw [hprogram] at hvalid
    cases hvalid
  | valid root =>
    exact ⟨root, rfl, keywords_in_context.2 _ _ hprogram,
      keywords_in_context.1 _ _ (by decide) hmode hacts⟩

/-- Three letters and a digit. -/
def lettersAndDigit : List Glyph := "abc1".toList.map fun c => .char c.toNat

/-- The state of recovery takes an identifier, but its mode finds all kinds of token, and so the letters of a
word go on to a digit as the text of an account. -/
theorem not_tellsWords_recovery :
    mode? Automaton.recovery = some Lexer.errorMode ∧
    (action? Automaton.recovery .identifier).isSome = true ∧
    Lexer.word (Lexer.body .origin lettersAndDigit) = lettersAndDigit.take 3 ∧
    (Lexer.run Lexer.errorMode .origin lettersAndDigit).token? lettersAndDigit =
      some ⟨.accountText, .origin, ⟨4, 0, 4⟩⟩ ∧
    ¬TellsWords Automaton.recovery Lexer.errorMode := by
  have hword : Lexer.word (Lexer.body .origin lettersAndDigit) = lettersAndDigit.take 3 := by
    decide +kernel
  have hread : (Lexer.run Lexer.errorMode .origin lettersAndDigit).token? lettersAndDigit =
      some ⟨.accountText, .origin, ⟨4, 0, 4⟩⟩ := by
    decide +kernel
  refine ⟨rfl, rfl, hword, hread, fun tells => ?_⟩
  obtain ⟨t, htoken, -⟩ := tells .origin lettersAndDigit ⟨.char 0x61, by decide +kernel, by decide⟩
  rw [hread, hword] at htoken
  have hstop : (⟨4, 0, 4⟩ : Point) = Point.origin.behind
      (Lexer.lead .origin lettersAndDigit ++ lettersAndDigit.take 3) :=
    congrArg Token.stop (Option.some.inj htoken)
  exact absurd hstop (by decide +kernel)

end Numscript
