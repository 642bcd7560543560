import Numscript.Automaton.Slots
import Numscript.Grammar.Lexeme
import Numscript.Lexer.Token
import Numscript.Proofs.Regular.Partial

/-!
# Residues

What a run of the lexer has left to read. A mode expects a set of tokens. Behind some glyphs there
remains, of every token that has not been ruled out, a list of expressions for the rest of it. This is
the residue of a run. Two runs that come to the same state have the same residue, whatever the mode
they start in, so a residue belongs to a state; the table `access` names a run to every state.
-/
namespace Numscript.Lexer

open Automaton (valueStart operators)

/-- The tokens that a mode expects besides the comments; the error mode expects all of them. -/
def expectedTokens : (mode : Nat) → List Terminal
  | 130 => [.kwVars, .kwSend, .kwSave, .kwOverdraft, .identifier]
  | 155 => valueStart ++ [.lbrace, .rbrace, .kwOneof, .kwMax, .kwRemaining]
  | 180 => valueStart ++ [.lbrace, .rbrace, .kwOneof, .kwMax]
  | 181 => valueStart ++ [.lbrace, .kwOneof, .kwMax]
  | 182 => valueStart ++ [.kwMax, .kwRemaining]
  | 183 => valueStart ++ [.lbrace, .kwOneof]
  | 184 => valueStart ++ [.rbrace, .kwRemaining]
  | 185 => valueStart ++ operators ++ [.star]
  | 187 => valueStart ++ operators
  | 188 => valueStart
  | 189 => valueStart ++ [.rparen]
  | 190 => valueStart ++ operators ++ [.lbrace, .rbrace, .kwFrom, .colon, .kwAllowing, .kwOneof,
    .kwMax, .backslash]
  | 203 => valueStart ++ operators ++ [.lbrace, .rbrace, .colon, .kwAllowing, .kwOneof, .kwMax,
    .backslash]
  | 204 => valueStart ++ operators ++ [.lbrace, .rbrace, .kwFrom, .kwAllowing, .kwOneof, .kwMax,
    .backslash]
  | 205 => valueStart ++ operators ++ [.lbrace, .rbrace, .kwAllowing, .kwOneof, .kwMax, .backslash]
  | 206 => valueStart ++ operators ++ [.rbrace, .colon, .kwAllowing, .kwRemaining, .backslash]
  | 207 => valueStart ++ operators ++ [.lbrace, .rbrace, .colon, .kwOneof, .kwMax]
  | 208 => operators ++ [.rbrace, .lparen, .kwDestination, .rparen, .kwFrom, .rbracket, .colon,
    .comma, .kwAllowing, .kwTo, .kwMax, .kwRemaining, .destinationKept, .backslash]
  | 251 => valueStart ++ operators ++ [.rbrace, .kwAllowing, .kwRemaining, .backslash]
  | 252 => valueStart ++ operators ++ [.lbrace, .rbrace, .kwAllowing, .kwOneof, .kwMax]
  | 253 => valueStart ++ operators ++ [.lbrace, .rbrace, .kwOneof, .kwMax]
  | 254 => valueStart ++ operators ++ [.rbrace, .colon, .kwRemaining]
  | 255 => operators ++ [.rbrace, .lparen, .kwDestination, .rparen, .kwFrom, .rbracket, .comma,
    .kwAllowing, .kwTo, .kwMax, .kwRemaining, .destinationKept, .backslash]
  | 256 => valueStart ++ operators ++ [.star, .colon]
  | 257 => valueStart ++ operators ++ [.rbrace, .kwAllowing, .kwRemaining]
  | 258 => valueStart ++ operators ++ [.rbrace, .kwRemaining]
  | 259 => valueStart ++ [.lbrace, .rbrace, .kwAllowing, .kwOneof, .kwMax]
  | 260 => operators ++ [.rbrace, .kwSend, .lparen, .rparen, .kwSave, .rbracket, .kwOverdraft,
    .comma, .identifier]
  | 261 => valueStart ++ [.rbrace, .kwAllowing, .kwRemaining]
  | 262 => valueStart ++ [.rbrace, .rparen, .kwRemaining]
  | 263 => [.kwSend, .kwSave, .kwOverdraft, .identifier]
  | 264 => operators ++ [.kwDestination, .kwFrom, .kwAllowing, .kwTo, .kwMax, .kwRemaining,
    .destinationKept, .backslash]
  | 265 => operators ++ [.kwSend, .kwSave, .colon, .kwOverdraft, .identifier]
  | 266 => operators ++ [.kwSend, .kwSave, .kwOverdraft, .identifier]
  | 267 => operators ++ [.rbrace, .lparen, .rparen, .rbracket, .comma]
  | 268 => operators ++ [.rbrace, .colon, .identifier]
  | 269 => operators ++ [.kwDestination, .kwAllowing, .backslash]
  | 270 => operators ++ [.kwTo, .destinationKept]
  | 271 => operators ++ [.rparen, .comma]
  | 272 => operators ++ [.kwFrom, .kwTo, .destinationKept]
  | 273 => operators ++ [.rbrace, .identifier]
  | 274 => operators ++ [.kwDestination, .kwAllowing]
  | 275 => operators ++ [.rbrace, .rparen]
  | 276 => operators ++ [.kwMax, .kwRemaining]
  | 277 => [.rbrace, .identifier]
  | 278 => operators ++ [.lparen]
  | 279 => operators ++ [.kwFrom]
  | 280 => operators ++ [.rparen]
  | 281 => [.rbrace, .equals, .identifier]
  | 282 => operators ++ [.rbracket]
  | 283 => [.kwTo, .destinationKept]
  | 284 => [.kwMax, .kwRemaining]
  | 285 => operators ++ [.kwDestination]
  | 286 => [.variableName, .accountText]
  | 287 => [.kwFrom, .kwTo, .destinationKept]
  | 288 => [.lparen, .kwFrom]
  | 289 => [.rparen, .comma]
  | 290 => [.kwDestination, .kwAllowing]
  | 291 => [.kwOverdraft, .kwUnbounded]
  | 310 => [.lbrace]
  | 311 => [.lparen]
  | 312 => []
  | 313 => [.kwFrom]
  | 314 => [.variableName]
  | 315 => [.kwSource]
  | 322 => [.rparen]
  | 323 => [.equals]
  | 324 => [.rbracket]
  | 325 => [.kwDestination]
  | 326 => [.kwOverdraft]
  | 327 => [.kwUp]
  | 330 => [.kwTo]
  | 331 => [.rbrace]
  | _ => Terminal.all.erase .endOfText

/-- The tokens that a mode expects, in the order of their numbers. -/
def expected (mode : Nat) : List Terminal :=
  Terminal.all.filter fun t => t.isComment || (expectedTokens mode).contains t

/-- What may remain of the tokens that are not ruled out, by the order of their numbers. -/
abbrev Residue := List (Terminal × List (Regular CharClass))

namespace Residue

/-- What remains behind a glyph. -/
def after (g : Glyph) (v : Residue) : Residue :=
  (v.map fun e => (e.1, (e.2.flatMap (·.partials Grammar.satisfies g)).eraseDups)).filter
    fun e => !e.2.isEmpty

/-- The first token that is complete. -/
def found? (v : Residue) : Option Terminal :=
  (v.find? fun e => e.2.any (·.nullable)).map (·.1)

/-- The classes that a residue tells code points apart by. -/
def classes (v : Residue) : List CharClass := v.flatMap fun e => e.2.flatMap (·.firsts)

end Residue

/-- What a mode starts with: the whole lexemes of the tokens that it expects. -/
def initial (mode : Nat) : Residue := (expected mode).map fun t => (t, [Grammar.lexeme t])

/-- A run to every state: the mode it starts in, and what it has read. -/
def access : List (List (Nat × String)) :=
  [[(0, ""), (1, ""), (155, "\""), (155, "\"a"), (155, "\"\""), (155, "\"\\"), (155, "\"\\\""),
    (155, "$"), (155, "$a"), (155, "$a0"), (155, "$aa"), (155, "("), (189, ")"), (185, "*"),
    (185, "+"), (208, ","), (0, "-"), (286, "a"), (0, "-0"), (0, "0_"), (0, "0_0"), (185, "/"),
    (130, "/*"), (130, "/*a"), (130, "/**"), (130, "/**a"), (130, "/**aa"), (130, "/**a*"),
    (130, "/**/"), (130, "//"), (130, "//a"), (0, "0"), (155, "0%"), (155, "0."), (155, "0.0"),
    (190, ":"), (281, "="), (155, "@"), (0, "A"), (155, "A/"), (155, "A/0"), (0, "A0"), (155, "["),
    (190, "\\"), (208, "]"), (0, "a"), (0, "a_"), (0, "aa"), (0, "al"), (0, "all"), (0, "allo"),
    (0, "allow"), (0, "allowi"), (0, "allowin"), (0, "allowing"), (0, "b"), (0, "d"), (0, "de"),
    (0, "des"), (0, "dest"), (0, "desti"), (0, "destin"), (0, "destina"), (0, "destinat")],
   [(0, "destinati"), (0, "destinatio"), (0, "destination"), (0, "f"), (0, "fr"), (0, "fro"),
    (0, "from"), (0, "k"), (0, "ke"), (0, "kep"), (0, "kept"), (0, "m"), (0, "ma"), (0, "max"),
    (0, "o"), (0, "on"), (0, "one"), (0, "oneo"), (0, "oneof"), (0, "ov"), (0, "ove"), (0, "over"),
    (0, "overd"), (0, "overdr"), (0, "overdra"), (0, "overdraf"), (0, "overdraft"), (0, "r"),
    (0, "re"), (0, "rem"), (0, "rema"), (0, "remai"), (0, "remain"), (0, "remaini"),
    (0, "remainin"), (0, "remaining"), (0, "s"), (0, "sa"), (0, "sav"), (0, "save"), (0, "se"),
    (0, "sen"), (0, "send"), (0, "so"), (0, "sou"), (0, "sour"), (0, "sourc"), (0, "source"),
    (0, "t"), (0, "to"), (0, "u"), (0, "un"), (0, "unb"), (0, "unbo"), (0, "unbou"), (0, "unboun"),
    (0, "unbound"), (0, "unbounde"), (0, "unbounded"), (0, "up"), (0, "v"), (0, "va"), (0, "var"),
    (0, "vars")],
   [(155, "\x7b"), (155, "\x7d"), (130, ""), (130, "/"), (130, "a"), (130, "a_"), (130, "aa"),
    (130, "o"), (130, "ov"), (130, "ove"), (130, "over"), (130, "overd"), (130, "overdr"),
    (130, "overdra"), (130, "overdraf"), (130, "overdraft"), (130, "s"), (130, "sa"), (130, "sav"),
    (130, "save"), (130, "se"), (130, "sen"), (130, "send"), (130, "v"), (130, "va"), (130, "var"),
    (130, "vars"), (155, ""), (155, "-"), (155, "-0"), (155, "0_"), (155, "0_0"), (155, "0"),
    (155, "A"), (155, "A0"), (155, "m"), (155, "ma"), (155, "max"), (155, "o"), (155, "on"),
    (155, "one"), (155, "oneo"), (155, "oneof"), (155, "r"), (155, "re"), (155, "rem"),
    (155, "rema"), (155, "remai"), (155, "remain"), (155, "remaini"), (155, "remainin"),
    (155, "remaining"), (180, ""), (181, ""), (182, ""), (183, ""), (184, ""), (185, ""),
    (185, "-"), (187, ""), (188, ""), (189, ""), (190, ""), (190, "a")],
   [(190, "al"), (190, "all"), (190, "allo"), (190, "allow"), (190, "allowi"), (190, "allowin"),
    (190, "allowing"), (190, "f"), (190, "fr"), (190, "fro"), (190, "from"), (203, ""), (204, ""),
    (205, ""), (206, ""), (207, ""), (208, ""), (208, "-"), (208, "a"), (208, "al"), (208, "all"),
    (208, "allo"), (208, "allow"), (208, "allowi"), (208, "allowin"), (208, "allowing"), (208, "d"),
    (208, "de"), (208, "des"), (208, "dest"), (208, "desti"), (208, "destin"), (208, "destina"),
    (208, "destinat"), (208, "destinati"), (208, "destinatio"), (208, "destination"), (208, "f"),
    (208, "fr"), (208, "fro"), (208, "from"), (208, "k"), (208, "ke"), (208, "kep"), (208, "kept"),
    (208, "m"), (208, "ma"), (208, "max"), (208, "r"), (208, "re"), (208, "rem"), (208, "rema"),
    (208, "remai"), (208, "remain"), (208, "remaini"), (208, "remainin"), (208, "remaining"),
    (208, "t"), (208, "to"), (251, ""), (252, ""), (253, ""), (254, ""), (255, "")],
   [(256, ""), (257, ""), (258, ""), (259, ""), (260, ""), (261, ""), (262, ""), (263, ""),
    (264, ""), (265, ""), (266, ""), (267, ""), (268, ""), (269, ""), (270, ""), (271, ""),
    (272, ""), (273, ""), (274, ""), (275, ""), (276, ""), (277, ""), (278, ""), (279, ""),
    (280, ""), (281, ""), (282, ""), (283, ""), (284, ""), (285, ""), (286, ""), (287, ""),
    (288, ""), (289, ""), (290, ""), (291, ""), (291, "o"), (291, "ov"), (291, "ove"),
    (291, "over"), (291, "overd"), (291, "overdr"), (291, "overdra"), (291, "overdraf"),
    (291, "overdraft"), (291, "u"), (291, "un"), (291, "unb"), (291, "unbo"), (291, "unbou"),
    (291, "unboun"), (291, "unbound"), (291, "unbounde"), (291, "unbounded"), (310, ""), (311, ""),
    (312, ""), (313, ""), (314, ""), (315, ""), (315, "s"), (315, "so"), (315, "sou"),
    (315, "sour")],
   [(315, "sourc"), (315, "source"), (322, ""), (323, ""), (324, ""), (325, ""), (326, ""),
    (327, ""), (327, "u"), (327, "up"), (330, ""), (331, "")]]

/-- What remains to be read in a state. -/
def residue (q : Nat) : Residue :=
  match (access[q / 64]?).bind (·[q % 64]?) with
  | some (mode, word) => word.toList.foldl (fun v c => v.after (.char c.toNat)) (initial mode)
  | none => []

/-- The code points at which some class begins, or ends before them. -/
def cuts (classes : List CharClass) : List Nat :=
  (0 :: classes.flatMap fun cls => cls.flatMap fun range => [range.1, range.2 + 1]).eraseDups

/-- The state that stands for the end of the text; no run comes to it. -/
def ending : Nat := 1

/-- Whether a state recognises what its residue says, and moves as it says. -/
def agrees (q : Nat) : Bool :=
  (state q).accepts = (residue q).found? &&
  (cuts ((state q).moves.map (·.1) ++ (residue q).classes)).all fun code =>
    match (state q).next? code with
    | some r => r != ending && !(state r).skips && !(state r).ends &&
      residue r = (residue q).after (.char code)
    | none => ((residue q).after (.char code)).isEmpty

theorem exists_cut (classes : List CharClass) (code : Nat) :
    ∃ c ∈ cuts classes, ∀ cls ∈ classes, cls.covers code = cls.covers c := by
  have hgreatest : ∀ l : List Nat, ∃ c ∈ 0 :: l, c ≤ code ∧ ∀ d ∈ l, d ≤ code → d ≤ c := by
    intro l
    induction l with
    | nil => exact ⟨0, by simp, Nat.zero_le _, by simp⟩
    | cons e l ih =>
      obtain ⟨c, hc, hle, hall⟩ := ih
      by_cases he : e ≤ code ∧ c ≤ e
      · refine ⟨e, by simp, he.1, fun d hd hcode => ?_⟩
        rcases List.mem_cons.1 hd with rfl | hd
        · exact Nat.le_refl _
        · exact Nat.le_trans (hall d hd hcode) he.2
      · refine ⟨c, ?_, hle, fun d hd hcode => ?_⟩
        · rcases List.mem_cons.1 hc with rfl | hc
          · exact List.mem_cons_self
          · exact List.mem_cons_of_mem _ (List.mem_cons_of_mem _ hc)
        · rcases List.mem_cons.1 hd with rfl | hd
          · omega
          · exact hall d hd hcode
  obtain ⟨c, hc, hle, hall⟩ := hgreatest
    (classes.flatMap fun cls => cls.flatMap fun range => [range.1, range.2 + 1])
  refine ⟨c, List.mem_eraseDups.2 hc, fun cls hcls => ?_⟩
  unfold CharClass.covers
  rw [Bool.eq_iff_iff, List.any_eq_true, List.any_eq_true]
  refine exists_congr fun range => and_congr_right fun hrange => ?_
  have hmem : ∀ d ∈ [range.1, range.2 + 1], d ≤ code → d ≤ c := fun d hd =>
    hall d (List.mem_flatMap.2 ⟨cls, hcls, List.mem_flatMap.2 ⟨range, hrange, hd⟩⟩)
  have hlow := hmem range.1 (by simp)
  have hhigh := hmem (range.2 + 1) (by simp)
  simp only [Bool.and_eq_true, decide_eq_true_eq]
  omega

theorem agrees_of_mem : ∀ q ∈ 0 :: List.range' 2 330, agrees q = true := by
  decide +kernel

/-- Behind the letters of `max` the keyword is complete, and a longer identifier is not ruled out. -/
example : (residue 77).found? = some .kwMax ∧ .identifier ∈ (residue 77).map (·.1) := by
  decide +kernel

end Numscript.Lexer
