import Numscript.Proofs.Ambiguity
import Numscript.Proofs.Parser.Parting
import Numscript.Proofs.Parser.Sift

/-!
# Runs over a text with comments added

Comments are added to the gaps of a text, each on lines of its own. A run over the new text finds the words
of the first text one by one, and the new comments between them. It comes to stacks that are the same but for
comments, as the state in which a comment is met stays the same behind it.
-/
namespace Numscript

open Grammar (IsLexeme)

/-- White space with some comments added, each between two line feeds. -/
inductive Sprinkled : List Glyph → List Glyph → Prop where
  | nil : Sprinkled [] []
  | keep (g : Glyph) {blanks blanks' : List Glyph} (h : Sprinkled blanks blanks') :
      Sprinkled (g :: blanks) (g :: blanks')
  | comment {t : Terminal} {c blanks blanks' : List Glyph} (kind : t.isComment = true)
      (lexeme : IsLexeme t c) (h : Sprinkled blanks blanks') :
      Sprinkled blanks (.lineFeed :: (c ++ .lineFeed :: blanks'))

/-- A gap, and the same gap with comments added behind a byte order mark. -/
inductive Sprinkles (before : List Glyph) : List Glyph → List Glyph → Prop where
  | mk {mark blanks blanks' : List Glyph} (blank : ∀ g ∈ blanks, g.isBlank = true)
      (marked : mark = [] ∨ before = [] ∧ mark = [.byteOrderMark])
      (sprinkled : Sprinkled blanks blanks') : Sprinkles before (mark ++ blanks) (mark ++ blanks')

theorem Sprinkles.isGap {before gap gap' : List Glyph} (h : Sprinkles before gap gap') :
    Parser.IsGap before gap := by
  obtain ⟨blank, marked, _⟩ := h
  exact ⟨_, _, rfl, blank, marked⟩

theorem Sprinkled.parts {blanks blanks' rest rest' : List Glyph} (h : Sprinkled blanks blanks')
    (parts : Lexer.Parts rest rest') : Lexer.Parts (blanks ++ rest) (blanks' ++ rest') := by
  induction h with
  | nil => exact parts
  | keep g _ ih => exact ih.append [g]
  | comment => exact Lexer.parts_lineFeed _ _

theorem Sprinkles.parts {before gap gap' rest rest' : List Glyph} (h : Sprinkles before gap gap')
    (parts : Lexer.Parts rest rest') : Lexer.Parts (gap ++ rest) (gap' ++ rest') := by
  obtain ⟨_, _, sprinkled⟩ := h
  rw [List.append_assoc, List.append_assoc]
  exact (sprinkled.parts parts).append _

/-- A gap does not begin with a star, so only an empty one is followed by a star. -/
theorem Sprinkles.head?_ne_star {before gap gap' rest rest' : List Glyph}
    (h : Sprinkles before gap gap') (hrest : (gap ++ rest).head? ≠ some Lexer.star)
    (same : rest'.head? = rest.head?) : (gap' ++ rest').head? ≠ some Lexer.star := by
  obtain ⟨blank, marked, sprinkled⟩ := h
  rcases marked with rfl | ⟨-, rfl⟩
  · cases sprinkled with
    | nil => exact fun hstar => hrest (same.symm.trans hstar)
    | keep => exact hrest
    | comment => exact fun hstar => absurd (Option.some.inj hstar) (by decide)
  · exact fun hstar => absurd (Option.some.inj hstar) (by decide)

/-- The front of a text, laid out in tokens, and the same words with comments added in the gaps. -/
inductive Commented : List Glyph → List Token → List Glyph → Prop where
  | nil : Commented [] [] []
  | snoc {before gap gap' word front : List Glyph} {tokens : List Token} {token : Token}
      (init : Commented before tokens front) (gaps : Sprinkles before gap gap')
      (lexeme : IsLexeme token.kind word)
      (start : token.start = Point.origin.behind (before ++ gap))
      (stop : token.stop = Point.origin.behind (before ++ gap ++ word)) :
      Commented (before ++ gap ++ word) (tokens ++ [token]) (front ++ gap' ++ word)

theorem Commented.eq_nil {tokens : List Token} {front : List Glyph} (h : Commented [] tokens front) :
    front = [] := by
  generalize hb : ([] : List Glyph) = before at h
  cases h with
  | nil => rfl
  | @snoc _ _ _ word _ _ _ _ _ lexeme =>
    obtain rfl : word = [] := (List.append_eq_nil_iff.1 hb.symm).2
    exact absurd rfl (Lexer.ne_nil_of_isLexeme lexeme)

theorem Commented.exists_last {tokens : List Token} {token : Token} {all front : List Glyph}
    (h : Commented all (tokens ++ [token]) front) : ∃ before gap gap' word front',
      Commented before tokens front' ∧ Sprinkles before gap gap' ∧ IsLexeme token.kind word ∧
      token.start = Point.origin.behind (before ++ gap) ∧
      token.stop = Point.origin.behind (before ++ gap ++ word) ∧
      all = before ++ gap ++ word ∧ front = front' ++ gap' ++ word := by
  generalize ht : tokens ++ [token] = list at h
  cases h with
  | nil => simp at ht
  | snoc init gaps lexeme start stop =>
    obtain ⟨rfl, hlast⟩ := List.append_inj' ht rfl
    obtain rfl := (List.cons.inj hlast).1
    exact ⟨_, _, _, _, _, init, gaps, lexeme, start, stop, rfl, rfl⟩

namespace Parser

variable {text text' : List Glyph}

/-- A run goes on over the comments that were added to a gap, and what is left of it is a gap. -/
theorem Reads.sprinkled {blanks blanks' : List Glyph} (h : Sprinkled blanks blanks')
    (blank : ∀ g ∈ blanks, g.isBlank = true) {tokens : List Token} {r : Reading}
    {before pre tail : List Glyph} (reads : Reads text tokens r)
    (split : text = before ++ (pre ++ (blanks' ++ tail)))
    (place : r.point = Point.origin.behind before) (isGap : IsGap before pre) :
    ∃ tokens' r' before' gap, Reads text tokens' r' ∧ text = before' ++ (gap ++ tail) ∧
      r'.point = Point.origin.behind before' ∧ IsGap before' gap ∧
      r'.stack.plain = r.stack.plain := by
  induction h generalizing tokens r before pre with
  | nil => exact ⟨tokens, r, before, pre, reads, split, place, isGap, rfl⟩
  | keep g _ ih =>
    rw [List.forall_mem_cons] at blank
    refine @ih blank.2 tokens r before (pre ++ [g]) reads (by simpa using split) place
      (isGap.append (by simpa using blank.1))
  | @comment t c blanks blanks' kind lexeme _ ih =>
    have hbreak : ∀ g ∈ [Glyph.lineFeed], g.isBlank = true := by decide
    have hgap : IsGap before (pre ++ [.lineFeed]) := isGap.append hbreak
    have hsplit : text = before ++ ((pre ++ [.lineFeed]) ++ (c ++ .lineFeed :: (blanks' ++ tail))) := by
      simpa using split
    obtain ⟨mode, hmode, ismode⟩ := reads.viable.isMode
    have hends : Lexer.Ends (.lineFeed :: (blanks' ++ tail)) := by
      intro g hg
      exact (Option.some.inj hg).symm
    have hfinds := hgap.finds (@Lexer.munch_comment mode t c _ kind lexeme hends)
    rw [← place] at hfinds
    have hread := Reading.token?_of_finds hmode ismode hfinds
    have hsettles : Settles ⟨t, Point.origin.behind (before ++ (pre ++ [.lineFeed])),
        Point.origin.behind (before ++ (pre ++ [.lineFeed]) ++ c)⟩ r.stack _ := .pass kind
    cases hsettles.ends reads.viable with
    | pushed pushes =>
      have hpushed := Reads.push reads hsplit place hread pushes
      obtain ⟨tokens', r', before', gap, hreads, hsplit', hplace, hgap', hplain⟩ :=
        @ih blank _ _ (before ++ (pre ++ [.lineFeed]) ++ c) [.lineFeed] hpushed
          (by simpa using split) rfl ⟨[], [.lineFeed], rfl, hbreak, .inl rfl⟩
      refine ⟨tokens', r', before', gap, hreads, hsplit', hplace, hgap', hplain.trans ?_⟩
      have hleaf : (Tree.leaf ⟨t, Point.origin.behind (before ++ (pre ++ [.lineFeed])),
        Point.origin.behind (before ++ (pre ++ [.lineFeed]) ++ c)⟩).isComment = true := kind
      exact Stack.plain_comment hleaf r.stack

/-- A run goes on over a gap with comments added. -/
theorem Reads.sprinkles {front gap gap' before tail : List Glyph} {tokens : List Token} {r : Reading}
    (reads : Reads text tokens r) (h : Sprinkles before gap gap') (split : text = front ++ (gap' ++ tail))
    (place : r.point = Point.origin.behind front) (begins : before = [] → front = []) :
    ∃ tokens' r' before' rest, Reads text tokens' r' ∧ text = before' ++ (rest ++ tail) ∧
      r'.point = Point.origin.behind before' ∧ IsGap before' rest ∧
      r'.stack.plain = r.stack.plain := by
  obtain @⟨mark, blanks, blanks', blank, marked, sprinkled⟩ := h
  rw [List.append_assoc] at split
  have hmark : IsGap front mark :=
    ⟨mark, [], by simp, nofun, marked.imp id fun h => ⟨begins h.1, h.2⟩⟩
  exact reads.sprinkled sprinkled blank split place hmark

/-- Where a run stands is told by the tokens that it has pushed. -/
theorem Reads.place {before front : List Glyph} {tokens : List Token} {r : Reading}
    (h : Reads text tokens r) (hc : Commented before tokens front) :
    r.point = Point.origin.behind before := by
  cases h with
  | start =>
    generalize ht : ([] : List Token) = all at hc
    cases hc with
    | nil => rfl
    | snoc => simp at ht
  | push =>
    obtain ⟨_, _, _, _, _, _, _, _, _, stop, rfl, _⟩ := hc.exists_last
    exact stop

/-- A run goes on with a copy of the token that another run has gone on with, where it is found. -/
theorem Reads.push_agreeing {tokens : List Token} {r r' : Reading} {before rest : List Glyph}
    {token token' : Token} {stack : Stack} {mode : Nat} (h : Reads text' tokens r')
    (split : text' = before ++ rest) (place : r'.point = Point.origin.behind before)
    (hv : Viable r.stack) (agrees : Stack.Agrees text text' r.stack r'.stack)
    (copy : token.Copies text text' token') (hmode : Automaton.mode? r.stack.state = some mode)
    (ismode : Lexer.IsMode mode) (finds : Lexer.Finds mode r'.point rest token')
    (settles : Settles token r.stack (.pushed stack)) :
    ∃ stack', Reads text' (tokens ++ [token']) ⟨stack', token'.stop⟩ ∧
      Stack.Agrees text text' stack stack' := by
  rw [← agrees.state_eq hv h.viable] at hmode
  have hread := Reading.token?_of_finds hmode ismode finds
  obtain ⟨e, hsettles, hagrees⟩ := settles.agrees agrees hv h.viable copy
  cases hagrees with
  | pushed hagrees =>
    cases hsettles.ends h.viable with
    | pushed pushes => exact ⟨_, .push h split place hread pushes, hagrees⟩

/-- Tokens that span the same word are copies. -/
theorem copies_of_places {text text' before before' word rest rest' : List Glyph} {token token' : Token}
    (split : text = before ++ (word ++ rest)) (split' : text' = before' ++ (word ++ rest'))
    (kind : token'.kind = token.kind) (start : token.start = Point.origin.behind before)
    (stop : token.stop = Point.origin.behind (before ++ word))
    (start' : token'.start = Point.origin.behind before')
    (stop' : token'.stop = Point.origin.behind (before' ++ word)) : token.Copies text text' token' := by
  rw [Point.behind_append] at stop stop'
  have hword : token.word text = word := @word_of_place _ _ before rest [] _ _ split rfl start stop
  have hword' : token'.word text' = word := @word_of_place _ _ before' rest' [] _ _ split' rfl start' stop'
  exact ⟨kind, hword'.trans hword.symm⟩

/-- A run over a text can be repeated where comments are added to its gaps. -/
theorem Reads.commented {tokens : List Token} {r : Reading} {before rest front rest' : List Glyph}
    (h : Reads text tokens r) (hc : Commented before tokens front) (split : text = before ++ rest)
    (split' : text' = front ++ rest') (parts : Lexer.Parts rest rest')
    (noStar : r.stack.BehindSlash → rest'.head? ≠ some Lexer.star) :
    ∃ tokens' r', Reads text' tokens' r' ∧ r'.point = Point.origin.behind front ∧
      Stack.Agrees text text' r.stack r'.stack := by
  induction h generalizing before rest front rest' with
  | start =>
    generalize ht : ([] : List Token) = all at hc
    cases hc with
    | nil => exact ⟨[], _, .start, rfl, .nil⟩
    | snoc => simp at ht
  | @push tokens r before₁ rest₁ token stack reached split₁ place read pushes ih =>
    obtain ⟨before, gap, gap', word, front, init, gaps, lexeme, start, stop, rfl, rfl⟩ := hc.exists_last
    have hv := reached.viable
    have hsettles := (Ends.pushed pushes).settles hv
    have hsplit : text = before ++ (gap ++ (word ++ rest)) := by simpa using split
    obtain ⟨rfl, rfl⟩ := Point.eq_of_behind (split₁.symm.trans hsplit)
      (place.symm.trans (reached.place init))
    obtain ⟨mode, hmode, ismode, munch⟩ :=
      hv.munch_of_push place read hsettles gaps.isGap lexeme stop
    have hsame : (word ++ rest').head? = (word ++ rest).head? := by
      obtain ⟨g, word, rfl⟩ := List.exists_cons_of_ne_nil (Lexer.ne_nil_of_isLexeme lexeme)
      rfl
    have hsplit' : text' = front ++ (gap' ++ (word ++ rest')) := by simpa using split'
    obtain ⟨tokens', r', hreads, hplace, hagrees⟩ := ih init hsplit hsplit'
      (gaps.parts (parts.append word))
      fun behind => gaps.head?_ne_star (hv.head?_ne_star behind read hsettles) hsame
    obtain ⟨tokens'', r'', before', gap'', hreads', hsplit'', hplace', hgap, hplain⟩ :=
      hreads.sprinkles gaps hsplit' hplace fun hnil => (hnil ▸ init).eq_nil
    have hagrees' : Stack.Agrees text text' r.stack r''.stack := by
      rwa [Stack.Agrees, hplain]
    have hmunch := munch.of_parts parts fun hslash => noStar (by
      obtain ⟨u, next, _, _, rfl, _⟩ := hv.exists_push pushes
      exact ⟨⟨next, .leaf token⟩, rfl, congrArg Symbol.terminal hslash⟩)
    have hfound := hgap.finds hmunch
    rw [← hplace'] at hfound
    have hcopy : token.Copies text text' ⟨token.kind, Point.origin.behind (before' ++ gap''),
        Point.origin.behind (before' ++ gap'' ++ word)⟩ :=
      copies_of_places (by simpa using hsplit) (by simpa using hsplit'') rfl start stop rfl rfl
    obtain ⟨stack', hpushed, hstack⟩ := hreads'.push_agreeing hsplit'' hplace' hv hagrees' hcopy
      hmode ismode hfound hsettles
    have hfront : before' ++ gap'' = front ++ gap' := by
      refine List.append_cancel_right (?_ : _ ++ (word ++ rest') = _ ++ (word ++ rest'))
      rw [List.append_assoc, List.append_assoc, ← hsplit'', ← hsplit']
    exact ⟨_, _, hpushed, by rw [hfront], hstack⟩

/-- A run that accepts can be repeated where comments are added, and accepts a copy but for comments. -/
theorem Accepts.commented {tokens : List Token} {root : Tree} {before gap front gap' : List Glyph}
    (h : Accepts text tokens root) (hc : Commented before tokens front)
    (gaps : Sprinkles before gap gap') (split : text = before ++ gap) (split' : text' = front ++ gap') :
    ∃ root', Recognises text' root' ∧ Copy text text' root.sifted root'.sifted := by
  obtain @⟨r, before₁, rest₁, token, stack, _, reads, split₁, place, read, completes, accepts⟩ := h
  have hv := reads.viable
  have hsettles := (Ends.accepted completes accepts).settles hv
  have hkind := hsettles.kind_of_accepted
  obtain ⟨rfl, rfl⟩ := Point.eq_of_behind (split₁.symm.trans split) (place.symm.trans (reads.place hc))
  obtain ⟨tokens', r', hreads, hplace, hagrees⟩ := reads.commented hc split split'
    (by simpa using gaps.parts (.inl (rfl : ([] : List Glyph) = []))) fun behind => by
      have hstar := @Sprinkles.head?_ne_star _ _ _ [] [] gaps (by
        rw [List.append_nil]
        exact hv.head?_ne_star behind read hsettles) rfl
      rwa [List.append_nil] at hstar
  obtain ⟨tokens'', r'', before', gap'', hreads', hsplit', hplace', hgap, hplain⟩ :=
    hreads.sprinkles gaps (by rw [split', List.append_nil]) hplace fun hnil => (hnil ▸ hc).eq_nil
  rw [List.append_nil] at hsplit'
  have hagrees' : Stack.Agrees text text' r.stack r''.stack := by
    rwa [Stack.Agrees, hplain]
  obtain ⟨mode, hmode, ismode, hfinds⟩ := Reading.finds hv read hsettles.acts
  rw [← hagrees'.state_eq hv hreads'.viable] at hmode
  cases hfinds with
  | @word t w more munch =>
    obtain rfl : t = .endOfText := hkind
    exact absurd (Lexer.fits_initial_iff.1 munch.fits).2 Lexer.not_isLexeme_endOfText
  | ends isOver last =>
    have hfound := hgap.ends last
    rw [← hplace'] at hfound
    have hread := Reading.token?_of_finds hmode ismode hfound
    have hcopy : Token.Copies text text' ⟨.endOfText, r.point.behind (Lexer.lead r.point rest₁),
        r.point.behind (Lexer.lead r.point rest₁)⟩ ⟨.endOfText, Point.origin.behind (before' ++ gap''),
          Point.origin.behind (before' ++ gap'')⟩ :=
      ⟨rfl, by rw [Glyph.between_self, Glyph.between_self]⟩
    obtain ⟨e, hsettles', hcopied⟩ := hsettles.agrees hagrees' hv hreads'.viable hcopy
    cases hcopied with
    | accepted copy =>
      cases hsettles'.ends hreads'.viable with
      | accepted completes' accepts' =>
        exact ⟨_, .accept hreads'.reaches hsplit' hplace' hread completes' accepts', copy⟩

/-- A program with comments added is parsed to a copy of its tree, but for the comments. -/
theorem parse_commented {tokens : List Token} {root : Tree} {before gap front gap' : List Glyph}
    (h : parse text = .valid root) (haccepts : Accepts text tokens root)
    (hc : Commented before tokens front) (gaps : Sprinkles before gap gap')
    (split : text = before ++ gap) (split' : text' = front ++ gap') :
    ∃ root', parse text' = .valid root' ∧ Copy text text' root.sifted root'.sifted := by
  obtain ⟨root', hrecognises, hcopy⟩ := haccepts.commented hc gaps split split'
  refine ⟨root', hrecognises.parse_eq fun hlone => ?_, hcopy⟩
  have hsifted := hcopy.lone (hrecognises.lone_sifted_iff.2 hlone)
  exact not_lone_of_parse h (haccepts.recognises.lone_sifted_iff.1 hsifted)

end Parser
end Numscript
