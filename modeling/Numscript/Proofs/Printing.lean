import Numscript.Proofs.Ambiguity
import Numscript.Proofs.Comments
import Numscript.Proofs.Parser.Ahead
import Numscript.Proofs.Tree.Draw

/-!
# Printing

A canonical form is printed with each of its tokens on a line of its own, and the text is parsed to a tree
of this form again. So no sentence of the grammar is lost in the tables of the automaton, and none is read
in another way than the conventions have it.
-/
namespace Numscript

open Grammar (Canonical Derives derives deriveAll unaliased)
open Glyph (encodeAll Scalars)
open Numscript.Parser (Ahead Reads Accepts Consumes IsGap)

namespace Grammar

mutual

/-- What `derives` decides. -/
theorem derives_of_eq_true : (f : Form) → derives f = true → Derives f
  | .mk s field text children, h => by
    rw [derives] at h
    split at h
    · next t shows =>
      obtain ⟨hnil, hlexeme⟩ := Bool.and_eq_true_iff.1 h
      obtain rfl := List.isEmpty_iff.1 hnil
      exact .token shows (Regular.accepts_iff.1 hlexeme)
    · next n shows =>
      simp only [Bool.and_eq_true] at h
      obtain ⟨⟨htext, hfits⟩, hbelow⟩ := h
      obtain rfl := List.isEmpty_iff.1 htext
      exact .phrase shows (Regular.accepts_iff.1 hfits) (derives_of_deriveAll children hbelow)
    · cases h
    · cases h

theorem derives_of_deriveAll : (forms : List Form) → deriveAll forms = true → ∀ c ∈ forms, Derives c
  | [], _ => nofun
  | f :: rest, h => by
    obtain ⟨hf, hrest⟩ := Bool.and_eq_true_iff.1 h
    exact List.forall_mem_cons.2 ⟨derives_of_eq_true f hf, derives_of_deriveAll rest hrest⟩

end

end Grammar

namespace Form

/-- Some words as a text, each on a line of its own. -/
def lines (words : List Word) : List Glyph :=
  ((words.map (·.text)).intersperse [.lineFeed]).flatten

theorem exists_lines_cons (w : Word) (words : List Word) : ∃ gap, (∀ g ∈ gap, g.isBlank = true) ∧
    Lexer.Ends (gap ++ lines words) ∧ lines (w :: words) = w.text ++ (gap ++ lines words) := by
  cases words with
  | nil => exact ⟨[], nofun, nofun, by simp [lines]⟩
  | cons w' words =>
    refine ⟨[.lineFeed], by decide, ?_, by simp [lines]⟩
    intro g hg
    exact (Option.some.inj hg).symm

/-- Words on lines of their own lie ahead as tokens of these words. -/
theorem exists_ahead {text before gap : List Glyph} {words : List Word}
    (stands : ∀ w ∈ words, w.Stands) (isGap : IsGap before gap)
    (split : text = before ++ (gap ++ lines words)) : ∃ tokens stop, stop.kind = .endOfText ∧
      Ahead before (gap ++ lines words) (tokens ++ [stop]) ∧
      List.Forall₂ (Token.Is text) tokens words := by
  induction words generalizing before gap with
  | nil =>
    refine ⟨[], ⟨.endOfText, Point.origin.behind (before ++ gap), Point.origin.behind (before ++ gap)⟩,
      rfl, ?_, .nil⟩
    simpa [lines] using Ahead.nil isGap
  | cons w words ih =>
    rw [List.forall_mem_cons] at stands
    obtain ⟨gap', hblank, hends, hlines⟩ := exists_lines_cons w words
    rw [hlines] at split ⊢
    have hgap : IsGap (before ++ gap ++ w.text) gap' := ⟨[], gap', rfl, hblank, .inl rfl⟩
    obtain ⟨tokens, stop, hstop, hahead, his⟩ := ih stands.2 hgap (by simpa using split)
    refine ⟨_, stop, hstop, .cons isGap stands.1.plain stands.1.lexeme stands.1.free hends hahead,
      .cons ⟨rfl, ?_⟩ his⟩
    have hsplit : text = (before ++ gap) ++ ([] ++ w.text ++ (gap' ++ lines words)) := by
      simpa using split
    exact Parser.word_of_place hsplit rfl rfl (Point.behind_append ..)

theorem Printable.printed_eq {f : Form} (h : f.Printable) : f.printed = lines f.words := by
  rw [printed, h.leaves_eq, lines]

end Form

namespace Parser

/-- A proper program is accepted where its tokens lie ahead. -/
theorem accepts_of_proper {text : List Glyph} {t : Tree} {stop : Token} (proper : t.Proper)
    (isProgram : t.symbol = .nonterminal .program) (kind : stop.kind = .endOfText)
    (ahead : Ahead [] text (t.tokens ++ [stop])) : ∃ tokens, Accepts text tokens t := by
  obtain ⟨tokens, h⟩ := Reads.accepts_of_ahead .start (List.nil_append text).symm rfl ahead
    (.of_program proper isProgram kind)
  exact ⟨_, h⟩

end Parser

/-- A program that is not empty is parsed to the form that was printed. -/
theorem Form.Printable.exists_program {f : Form} (h : f.Printable)
    (isProgram : f.symbol = .nonterminal .program) (atRoot : f.field = none) (inhabited : f.children ≠ []) :
    ∃ root, Program.ofGlyphs f.printed = .valid root ∧ root.form f.printed = f := by
  have hgap : IsGap [] [] := ⟨[], [], rfl, nofun, .inl rfl⟩
  obtain ⟨tokens, stop, hstop, hahead, his⟩ :=
    Form.exists_ahead h.stands hgap h.printed_eq
  obtain ⟨t, hdraws, rfl⟩ := h.drawable (fun _ => inhabited) tokens his
  rw [List.nil_append, ← h.printed_eq] at hahead
  have hsymbol : t.symbol = .nonterminal .program := by rw [hdraws.symbol, isProgram]; rfl
  obtain ⟨tokens, haccepts⟩ := Parser.accepts_of_proper hdraws.proper hsymbol hstop hahead
  have hparse := haccepts.recognises.parse_eq hdraws.single
  refine ⟨_, Program.ofGlyphs_eq_valid.2 ⟨t, hparse, rfl⟩, ?_⟩
  cases t with
  | leaf => cases hsymbol
  | node phrase layout children =>
    obtain rfl := Symbol.nonterminal.inj hsymbol
    have hshows := hdraws.shows none isProgram.symm
    rw [Tree.nodes, if_neg (by decide), Node.forms, Node.form_spanning_eq, atRoot] at hshows
    rw [Tree.form_program]
    exact (List.cons.inj hshows).1

/--
A canonical form without comments, none of whose identifiers is spelled like a keyword, is what its printed
text is parsed to. The texts of its tokens may hold any code points; where these have bytes, the bytes of the
printed text are read alike.
-/
theorem parse_printed {f : Form} (canonical : Canonical f) (bare : f.withoutComments = f)
    (free : f.namesFree = true) : ∃ root, Program.ofGlyphs f.printed = .valid root ∧
      root.form f.printed = f ∧
      (Scalars f.printed → Program.ofBytes (encodeAll f.printed) = .valid root) := by
  have hbytes : ∀ root, Program.ofGlyphs f.printed = .valid root → Scalars f.printed →
      Program.ofBytes (encodeAll f.printed) = .valid root := by
    intro root hroot hscalars
    rwa [Program.ofBytes, Glyph.ofBytes_encodeAll_self hscalars]
  obtain ⟨isProgram, atRoot, hderives, hgroups⟩ := canonical
  have hprintable : f.Printable := by
    refine Form.printable_of_derives hderives ?_ bare hgroups free fun n hn => ?_
    · simp [Form.isComment, isProgram]
    · rw [isProgram] at hn
      obtain rfl := Symbol.nonterminal.inj hn
      rfl
  by_cases hchildren : f.children = []
  · obtain ⟨symbol, field, text, children⟩ := f
    obtain rfl : symbol = .nonterminal .program := isProgram
    obtain rfl : field = none := atRoot
    obtain rfl : children = [] := hchildren
    cases hprintable with
    | token shows => cases shows
    | phrase => exact ⟨_, rfl, rfl, hbytes _ rfl⟩
  · obtain ⟨root, hvalid, hform⟩ := hprintable.exists_program isProgram atRoot hchildren
    exact ⟨root, hvalid, hform, hbytes root hvalid⟩

namespace Form

/-- A token with its spelling. -/
def spelled (t : Terminal) (word : String) : Form :=
  .mk (.terminal t) none (word.toList.map fun c => .char c.toNat) []

/-- A phrase over its children. -/
def phrase (n : Nonterminal) (children : List Form) : Form := .mk (.nonterminal n) none [] children

/-- A form that has a role in its parent. -/
def inRole (field : Option Field) (name : Option Alias) : Form → Form
  | .mk symbol _ text children => .mk ((name.map .alias).getD symbol) field text children

/-- A value that is a single token. -/
def value (n : Nonterminal) (t : Terminal) (word : String) : Form :=
  phrase .valueExpr [phrase n [spelled t word]]

/-- The sum `9 - $x / 2`. -/
def remainder : Form :=
  phrase .valueExpr [phrase .infixExpr [inRole (some .left) none (value .numberLiteral .number "9"),
    inRole (some .op) none (spelled .minus "-"),
    inRole (some .right) none (phrase .valueExpr [phrase .infixExpr
      [inRole (some .left) none (value .variableExpr .variableName "$x"),
       inRole (some .op) none (spelled .slash "/"),
       inRole (some .right) none (value .numberLiteral .number "2")]])]]

/-- A program that sends a sum to the one who gets what remains, from an account with a variable in it. -/
def sendRemainder : Form :=
  phrase .program [phrase .statement [phrase .sendStatement
    [spelled .kwSend "send", phrase .sentValue [inRole none (some .sentLiteral) remainder],
     spelled .lparen "(", spelled .kwSource "source", spelled .equals "=",
     phrase .source [phrase .srcAccount [phrase .valueExpr [phrase .accountLiteral
       [spelled .atSign "@", phrase .accountLiteralPart [spelled .accountText "send"], spelled .colon ":",
        phrase .accountLiteralPart [inRole none (some .accountVar) (spelled .variableName "$to")]]]]],
     spelled .kwDestination "destination", spelled .equals "=",
     phrase .destination [phrase .destInorder [spelled .lbrace "\x7b", spelled .kwRemaining "remaining",
       phrase .keptOrDestination [spelled .destinationKept "kept"], spelled .rbrace "\x7d"]],
     spelled .rparen ")"]]]

end Form

theorem parse_printed_sendRemainder : Canonical Form.sendRemainder ∧
    Form.sendRemainder.withoutComments = Form.sendRemainder ∧ Form.sendRemainder.namesFree = true ∧
    Scalars Form.sendRemainder.printed ∧ ∃ root : Node,
      Program.ofBytes (encodeAll Form.sendRemainder.printed) = .valid root ∧
      root.form Form.sendRemainder.printed = Form.sendRemainder := by
  have canonical : Canonical Form.sendRemainder :=
    ⟨rfl, rfl, Grammar.derives_of_eq_true _ (by decide +kernel), by decide +kernel⟩
  have free : Form.sendRemainder.namesFree = true := by decide +kernel
  have bare : Form.sendRemainder.withoutComments = Form.sendRemainder := rfl
  have scalars : Scalars Form.sendRemainder.printed := .of_isLow (by decide +kernel)
  obtain ⟨root, _, hform, hbytes⟩ := parse_printed canonical bare free
  exact ⟨canonical, bare, free, scalars, root, hbytes scalars, hform⟩

end Numscript
