import Mathlib.Data.List.Infix
import Numscript.Proofs.Trace.Course
import Numscript.Trace.Line

/-!
# The lines of a log

Every line of a log tells its event (`ofLine?_log`). The words that the lines begin with are no beginnings of one
another, and neither are the names of the tokens with the words behind them. Rows and columns tell the place, for a
place further in a text is in a later row, or further in the same one.
-/
namespace Numscript.Trace

open Numscript.Parser (Stack Ending)

namespace Reader

/-- The bytes of a word. -/
def bytes (w : String) : List UInt8 := w.toByteArray.data.toList

theorem prefix_bytes {v w : String} (h : v.toList <+: w.toList) : bytes v <+: bytes w := by
  obtain ⟨more, hmore⟩ := h
  have hw : w = v ++ String.ofList more := by
    rw [← String.toList_inj, String.toList_append, String.toList_ofList, hmore]
  rw [hw, bytes, bytes, String.toByteArray_append, ByteArray.data_append, Array.toList_append]
  exact List.prefix_append ..

/-- Neither of two words is the beginning of the other. -/
def Apart (v w : List UInt8) : Prop := ¬ v <+: w ∧ ¬ w <+: v

instance (v w : List UInt8) : Decidable (Apart v w) := inferInstanceAs (Decidable (_ ∧ _))

theorem isPrefixOf?_append (w rest : List Char) : w.isPrefixOf? (w ++ rest) = some rest :=
  List.isPrefixOf?_eq_some_iff_append_eq.2 rfl

theorem word_run (w : String) (rest : List Char) : (word w).run (w.toList ++ rest) = some ((), rest) :=
  congrArg (Option.map _) (isPrefixOf?_append _ rest)

theorem isPrefixOf?_of_apart {v w : String} (apart : Apart (bytes v) (bytes w)) (rest : List Char) :
    v.toList.isPrefixOf? (w.toList ++ rest) = none := by
  rw [Option.eq_none_iff_forall_ne_some]
  intro more hdrop
  have hsplit := List.isPrefixOf?_eq_some_iff_append_eq.1 hdrop
  rcases List.prefix_or_prefix_of_prefix ⟨more, hsplit⟩ (List.prefix_append w.toList rest) with h | h
  · exact apart.1 (prefix_bytes h)
  · exact apart.2 (prefix_bytes h)

/-- Of words that are apart from one another, the one that is there is found. -/
theorem oneOf_run {α : Type} {word : α → String} {choices : List α} {a : α} (mem : a ∈ choices)
    (apart : (choices.map fun a => bytes (word a)).Pairwise Apart) (rest : List Char) :
    (oneOf word choices).run ((word a).toList ++ rest) = some (a, rest) := by
  change choices.findSome? _ = _
  induction choices with
  | nil => cases mem
  | cons b choices ih =>
    rw [List.map_cons, List.pairwise_cons] at apart
    rcases List.mem_cons.1 mem with rfl | hmem
    · rw [List.findSome?_cons, isPrefixOf?_append]
      rfl
    · rw [List.findSome?_cons, isPrefixOf?_of_apart (apart.1 _ (List.mem_map_of_mem hmem))]
      exact ih hmem apart.2

theorem isDigit_of_mem_repr {n : Nat} {c : Char} (h : c ∈ n.repr.toList) : c.isDigit = true := by
  rw [Nat.toList_repr] at h
  exact Nat.isDigit_of_mem_toDigits (by decide) (by decide) h

theorem number_run (n : Nat) {rest : List Char} (stops : ∀ c ∈ rest.head?, c.isDigit = false) :
    number.run (n.repr.toList ++ rest) = some (n, rest) := by
  have htake : rest.takeWhile Char.isDigit = [] ∧ rest.dropWhile Char.isDigit = rest := by
    cases rest with
    | nil => exact ⟨rfl, rfl⟩
    | cons c rest =>
      have hc := stops c rfl
      exact ⟨List.takeWhile_cons_of_neg (by simp [hc]), List.dropWhile_cons_of_neg (by simp [hc])⟩
  have hdigits : (n.repr.toList ++ rest).takeWhile Char.isDigit = n.repr.toList := by
    rw [List.takeWhile_append_of_pos fun c => isDigit_of_mem_repr, htake.1, List.append_nil]
  have hrest : (n.repr.toList ++ rest).dropWhile Char.isDigit = rest := by
    rw [List.dropWhile_append_of_pos fun c => isDigit_of_mem_repr, htake.2]
  change number _ = _
  rw [number, hdigits, hrest]
  split
  · next hnil =>
    rw [Nat.toList_repr] at hnil
    exact absurd hnil Nat.toDigits_ne_nil
  · rw [Nat.toList_repr, Nat.ofDigitChars_toDigits (by decide) (by decide)]

theorem number_end (n : Nat) : number.run n.repr.toList = some (n, []) := by
  have h : number.run (n.repr.toList ++ []) = some (n, []) := number_run n nofun
  rwa [List.append_nil] at h

theorem number_word_run (n : Nat) {w : String} (stops : w.toList.head?.any (fun c => !c.isDigit) = true)
    (rest : List Char) : number.run (n.repr.toList ++ (w.toList ++ rest)) = some (n, w.toList ++ rest) := by
  refine number_run n fun c hc => ?_
  cases hw : w.toList with
  | nil => simp [hw] at stops
  | cons d more =>
    rw [hw] at stops hc
    obtain rfl := Option.some.inj hc
    simpa using stops

theorem word_repr {w : String} (other : w.toList.any (fun c => !c.isDigit) = true) (n : Nat) :
    (word w).run n.repr.toList = none := by
  obtain ⟨c, hc, hother⟩ := List.any_eq_true.1 other
  have hdigit : c.isDigit = false := by simpa using hother
  have hnone : w.toList.isPrefixOf? n.repr.toList = none := by
    rw [Option.eq_none_iff_forall_ne_some]
    intro rest hrest
    have hsplit := List.isPrefixOf?_eq_some_iff_append_eq.1 hrest
    have hmem : c ∈ n.repr.toList := hsplit ▸ List.mem_append_left rest hc
    exact absurd ((isDigit_of_mem_repr hmem).symm.trans hdigit) (by decide)
  exact congrArg (Option.map _) hnone

theorem word_end (w : String) : (word w).run w.toList = some ((), []) := by
  have h := word_run w []
  rwa [List.append_nil] at h

theorem bind_run {α β : Type} {x : Reader α} {f : α → Reader β} {s rest : List Char} {a : α}
    (h : x.run s = some (a, rest)) : (x >>= f).run s = (f a).run rest := by
  rw [StateT.run_bind, h]
  rfl

theorem bind_fails {α β : Type} {x : Reader α} {f : α → Reader β} {s : List Char} (h : x.run s = none) :
    (x >>= f).run s = none := by
  rw [StateT.run_bind, h]
  rfl

theorem pure_run {α : Type} (a : α) (s : List Char) : (pure a : Reader α).run s = some (a, s) := rfl

theorem orElse_run {α : Type} (x y : Reader α) (s : List Char) :
    (x <|> y).run s = (x.run s).or (y.run s) := by
  change (x.run s <|> y.run s) = _
  cases x.run s <;> rfl

theorem toNat_ofNat_of_prints {code : Nat} (prints : 32 ≤ code ∧ code ≤ 126) :
    (Char.ofNat code).toNat = code := by
  have hvalid : code.isValidChar := .inl (by omega)
  rw [Char.ofNat, dif_pos hvalid]
  rfl

theorem glyph_run (g : Glyph) : glyph.run (glyphText g).toList = some (g, []) := by
  rw [glyph, orElse_run, orElse_run]
  cases g with
  | stray =>
    have hquote : (word "'").run "-1".toList = none := by
      have h := isPrefixOf?_of_apart (v := "'") (w := "-1") (by decide +kernel) []
      rw [List.append_nil] at h
      exact congrArg (Option.map fun rest => ((), rest)) h
    rw [glyphText, bind_fails hquote, Option.none_or, bind_run (word_end "-1")]
    rfl
  | char code =>
    rw [glyphText]
    split
    · next hprints =>
      have htext : (s!"'{Char.ofNat code}'").toList = "'".toList ++ (Char.ofNat code :: "'".toList) := by
        change ("'" ++ String.singleton (Char.ofNat code) ++ "'").toList = _
        rw [String.toList_append, String.toList_append, String.toList_singleton, List.append_assoc]
        rfl
      have hletter : letter.run (Char.ofNat code :: "'".toList) = some (Char.ofNat code, "'".toList) := rfl
      rw [htext, bind_run (word_run ..), bind_run hletter, bind_run (word_end "'"), pure_run,
        toNat_ofNat_of_prints hprints, Option.some_or]
    · have hquote := word_repr (w := "'") (by decide +kernel) code
      have hstray := word_repr (w := "-1") (by decide +kernel) code
      rw [show toString code = code.repr from rfl, bind_fails hquote, bind_fails hstray, Option.none_or,
        Option.none_or]
      exact bind_run (number_end code)

theorem after_lex (p : Point) (g : Glyph) : p.row < (p.after g).row ∨
    p.row = (p.after g).row ∧ p.column < (p.after g).column := by
  rw [Point.after]
  split
  · exact .inl (Nat.lt_succ_self _)
  · exact .inr ⟨rfl, Nat.lt_add_of_pos_right g.size_pos⟩

/-- Further on in a text a place is in a later row, or further in the same row. -/
theorem behind_lex (p : Point) (word : List Glyph) : p.row < (p.behind word).row ∨
    p.row = (p.behind word).row ∧ p.column + word.length ≤ (p.behind word).column := by
  induction word generalizing p with
  | nil => exact .inr ⟨rfl, Nat.le_refl _⟩
  | cons g word ih =>
    have hfirst := after_lex p g
    have hrest := ih (p.after g)
    change p.row < ((p.after g).behind word).row ∨
      p.row = ((p.after g).behind word).row ∧ _ ≤ ((p.after g).behind word).column
    rw [List.length_cons]
    omega

theorem find?_eq {p q : Point} {text : List Glyph} (h : Place p text q) :
    place.find? q.row q.column p text = some q := by
  obtain ⟨before, rest, rfl, rfl⟩ := h
  induction before generalizing p with
  | nil => cases rest <;> exact if_pos ⟨rfl, rfl⟩
  | cons g before ih =>
    rw [List.cons_append, place.find?, if_neg]
    · exact ih
    · rintro ⟨hrow, hcolumn⟩
      have hlex := behind_lex p (g :: before)
      rw [List.length_cons] at hlex
      omega

theorem place_run {text : List Glyph} {q : Point} (h : Place .origin text q) (s : List Char) :
    (place text q.row q.column).run s = some (q, s) :=
  congrArg (Option.map _) (find?_eq h)

theorem point_run {text : List Glyph} {p : Point} (h : Place .origin text p) {between : String}
    (stops : between.toList.head?.any (fun c => !c.isDigit) = true) : (point text between).run
      (", row:".toList ++ (p.row.repr.toList ++ (between.toList ++ p.column.repr.toList))) = some (p, []) := by
  rw [point, bind_run (word_run ..), bind_run (number_word_run p.row stops _), bind_run (word_run ..),
    bind_run (number_end p.column), place_run h]

end Reader

namespace Event

open Reader

/-- The place that an event is about. -/
def point? : Event → Option Point
  | .process _ p => some p
  | .lexing _ p => some p
  | _ => none

theorem apart_heads (text : List Glyph) : ((heads text).map fun head => bytes head.1).Pairwise Apart := by
  have h : ((heads []).map fun head => bytes head.1).Pairwise Apart := by decide +kernel
  exact h

theorem apart_tokens : ((none :: Terminal.all.map some).map fun kind =>
    bytes (tokenText kind ++ ", size:")).Pairwise Apart := by
  decide +kernel

theorem apart_phrases :
    (Nonterminal.all.map fun n => bytes (n.name ++ ", child_count:")).Pairwise Apart := by
  decide +kernel

section
variable {text : List Glyph} {head : String × Reader Event}

/-- What begins with a head is read as the head tells. -/
theorem read_append (i : Nat) (at_ : (heads text)[i]? = some head) {body : List Char}
    {answer : Option (Event × List Char)} (reads : head.2.run body = answer) :
    (read text).run (head.1.toList ++ body) = answer := by
  rw [read, bind_run (oneOf_run (List.mem_of_getElem? at_) (apart_heads text) body), reads]

theorem read_whole (i : Nat) (at_ : (heads text)[i]? = some head) {answer : Option (Event × List Char)}
    (reads : head.2.run [] = answer) : (read text).run head.1.toList = answer := by
  rw [← List.append_nil head.1.toList]
  exact read_append i at_ reads

theorem read_text (e : Event) (h : ∀ p, e.point? = some p → Place .origin text p) :
    (read text).run e.text.toList = some (e, []) := by
  cases e with
  | newParse => exact read_whole 0 rfl rfl
  | process state p =>
    change (read text).run ("process version:0, version_count:1, state:" ++ state.repr ++ ", row:" ++
      p.row.repr ++ ", col:" ++ p.column.repr).toList = _
    simp only [String.toList_append, List.append_assoc]
    refine read_append 1 rfl ?_
    rw [bind_run (number_word_run state (by decide +kernel) _),
      bind_run (point_run (h p rfl) (by decide +kernel))]
    rfl
  | lexing mode p =>
    change (read text).run ("lex_internal state:" ++ mode.repr ++ ", row:" ++ p.row.repr ++ ", column:" ++
      p.column.repr).toList = _
    simp only [String.toList_append, List.append_assoc]
    refine read_append 2 rfl ?_
    rw [bind_run (number_word_run mode (by decide +kernel) _),
      bind_run (point_run (h p rfl) (by decide +kernel))]
    rfl
  | skip g =>
    change (read text).run ("skip character:" ++ glyphText g).toList = _
    rw [String.toList_append]
    exact read_append 3 rfl (bind_run (glyph_run g))
  | consume g =>
    change (read text).run ("consume character:" ++ glyphText g).toList = _
    rw [String.toList_append]
    exact read_append 4 rfl (bind_run (glyph_run g))
  | skipUnrecognized => exact read_whole 5 rfl rfl
  | lookahead kind size =>
    have hkind : kind ∈ none :: Terminal.all.map some := by
      cases kind with
      | none => exact List.mem_cons_self
      | some t => exact List.mem_cons_of_mem _ (List.mem_map_of_mem (Terminal.mem_all t))
    change (read text).run ("lexed_lookahead sym:" ++ tokenText kind ++ ", size:" ++ size.repr).toList = _
    rw [String.append_assoc, String.append_assoc, String.toList_append, ← String.append_assoc,
      String.toList_append]
    refine read_append 6 rfl ?_
    rw [bind_run (oneOf_run hkind apart_tokens _)]
    exact bind_run (number_end size)
  | reduce phrase arity =>
    change (read text).run ("reduce sym:" ++ phrase.name ++ ", child_count:" ++ arity.repr).toList = _
    rw [String.append_assoc, String.append_assoc, String.toList_append, ← String.append_assoc,
      String.toList_append]
    refine read_append 7 rfl ?_
    rw [bind_run (oneOf_run (Nonterminal.mem_all phrase) apart_phrases _)]
    exact bind_run (number_end arity)
  | shift state =>
    change (read text).run ("shift state:" ++ state.repr).toList = _
    rw [String.toList_append]
    exact read_append 8 rfl (bind_run (number_end state))
  | shiftExtra => exact read_whole 9 rfl rfl
  | detectError => exact read_whole 10 rfl rfl
  | accept => exact read_whole 11 rfl rfl
  | done => exact read_whole 12 rfl rfl
  | parsed size hasError =>
    have htrue : hasError ∈ [false, true] := by cases hasError <;> decide
    have happart : ([false, true].map fun b => bytes (toString b)).Pairwise Apart := by decide +kernel
    change (read text).run ("parsed numscript source bytes=" ++ size.repr ++ " has_error=" ++
      toString hasError).toList = _
    simp only [String.toList_append, List.append_assoc]
    refine read_append 13 rfl ?_
    have hbool := oneOf_run htrue happart []
    rw [List.append_nil] at hbool
    rw [bind_run (number_word_run size (by decide +kernel) _), bind_run (word_run ..), bind_run hbool]
    rfl

theorem ofLine?_line (e : Event) (h : ∀ p, e.point? = some p → Place .origin text p) :
    ofLine? text e.line = some e := by
  have hchannel : ∀ c, c ∈ [Channel.summary, .parser, .lexer] := by
    intro c
    cases c <;> decide
  have happart : ([Channel.summary, .parser, .lexer].map fun c => bytes c.tag).Pairwise Apart := by
    decide +kernel
  have hread : (readLine text).run e.line.toList = some (e, []) := by
    rw [line, String.append_assoc, String.toList_append, String.toList_append, readLine,
      bind_run (oneOf_run (hchannel e.channel) happart _), bind_run (word_run ..), bind_run (read_text e h), if_pos rfl]
    rfl
  rw [ofLine?, hread]

end

end Event

theorem point?_eq (e : Event) : e.point? = e.place?.or e.runStart? := by
  cases e <;> rfl

theorem point?_runEvents (r : Lexer.Run) (text : List Glyph) :
    ∀ e ∈ runEvents r text, ∀ q, e.point? = some q → q = r.point := by
  simp only [runEvents, List.forall_mem_cons, List.forall_mem_append, List.forall_mem_map]
  exact ⟨fun q hq => (Option.some.inj hq).symm, by simp [Event.point?], by simp [Event.point?]⟩

theorem Makes.point?_eq_none {token : Token} {s : Stack} {events : List Event} {ending : Option Ending}
    (h : Makes token s events ending) : ∀ e ∈ events, e.point? = none := by
  induction h with
  | reduce _ _ _ ih => exact List.forall_mem_cons.2 ⟨rfl, ih⟩
  | _ => simp [Event.point?]

theorem place_unrecognized (p : Point) (text : List Glyph) :
    ∀ e ∈ (unrecognized (Lexer.run Lexer.errorMode p text) text).1, ∀ q, e.point? = some q → Place p text q := by
  intro e he q hq
  rw [point?_eq, place?_unrecognized _ _ e he, Option.none_or] at hq
  have hmem : q ∈ runStarts (unrecognized (Lexer.run Lexer.errorMode p text) text).1 :=
    List.mem_filterMap.2 ⟨e, he, hq⟩
  cases resumes_unrecognized p text with
  | blank _ starts _ => exact absurd (starts ▸ hmem) List.not_mem_nil
  | search split _ search => exact split ▸ (search.places q hmem).append

theorem place_tokenEvents (mode : Nat) (p : Point) (text : List Glyph) :
    ∀ e ∈ (tokenEvents mode p text).1, ∀ q, e.point? = some q → Place p text q := by
  have hrun (mode : Nat) : ∀ e ∈ runEvents (Lexer.run mode p text) text, ∀ q, e.point? = some q →
      Place p text q := by
    intro e he q hq
    obtain rfl := (point?_runEvents _ _ e he q hq).trans (Lexer.run_origin mode p text).1
    exact .self q text
  rw [tokenEvents]
  split
  · simp only [List.forall_mem_append, List.forall_mem_singleton]
    exact ⟨hrun mode, by simp [Event.point?]⟩
  · dsimp only
    split
    · simp only [List.forall_mem_append, List.forall_mem_singleton]
      exact ⟨⟨hrun mode, hrun _⟩, by simp [Event.point?]⟩
    · simp only [List.forall_mem_append, List.forall_mem_singleton]
      exact ⟨⟨⟨hrun mode, hrun _⟩, place_unrecognized p text⟩, by simp [Event.point?]⟩

theorem place_report (mode : Nat) (stack : Stack) (p : Point) (text : List Glyph) {events : List Event}
    (h : ∀ e ∈ events, e.point? = none) :
    ∀ e ∈ report mode stack p text events, ∀ q, e.point? = some q → Place p text q := by
  simp only [report, List.forall_mem_cons, List.forall_mem_append]
  refine ⟨fun q hq => ?_, place_tokenEvents mode p text, fun e he q hq => ?_⟩
  · obtain rfl := Option.some.inj hq
    exact .self _ text
  · rw [h e he] at hq
    cases hq

/-- A log is about places of its text. -/
theorem Goes.places {stack : Stack} {p : Point} {text : List Glyph} {answer : List Event × Stop}
    (h : Goes stack p text answer) : ∀ e ∈ answer.1, ∀ q, e.point? = some q → Place p text q := by
  induction h with
  | unread => exact place_report _ _ _ _ (List.forall_mem_singleton.2 rfl)
  | fails _ _ makes | divides _ _ makes => exact place_report _ _ _ _ makes.point?_eq_none
  | accepts _ _ makes =>
    rw [List.forall_mem_append]
    exact ⟨place_report _ _ _ _ makes.point?_eq_none, by simp [Event.point?]⟩
  | pushes _ _ makes _ _ _ ih =>
    rw [List.forall_mem_append]
    exact ⟨place_report _ _ _ _ makes.point?_eq_none, fun e he q hq => (ih e he q hq).append⟩

/-- Every line of the log of a text tells its event. -/
theorem ofLine?_log (text : List Glyph) : ∀ e ∈ (log text).1, Event.ofLine? text e.line = some e := by
  intro e he
  refine Event.ofLine?_line e fun q hq => ?_
  rcases List.mem_cons.1 he with rfl | hmem
  · cases hq
  · exact (goes_logFrom .empty .origin text).places e hmem q hq

end Numscript.Trace
