import Numscript.Grammar.Canonical
import Numscript.Proofs.Lexer.Lookahead
import Numscript.Proofs.Regular.Letters
import Numscript.Proofs.Tree.Shown

/-!
# Printable forms

A form without comments that derives from the grammar and keeps the conventions, with no identifier that
is spelled like a keyword, can be printed: the words of its tokens, each over before the next one begins,
are read back as this form. Here is what such a form consists of, and what its words are.
-/
namespace Numscript

open Grammar (IsLexeme Derives unaliased rule sameItem items keepsConventions conventional
  conventionalAll spellsKeyword)

/-- A word of a text: a token and how it is spelled. -/
structure Word where
  kind : Terminal
  text : List Glyph

/-- A word that is read as its token wherever it stands alone on a line. -/
structure Word.Stands (w : Word) : Prop where
  plain : w.kind.isComment = false
  lexeme : IsLexeme w.kind w.text
  free : w.kind = .identifier → spellsKeyword w.text = false

namespace Form

mutual

/-- The words of the tokens of a form, in order. -/
def words : Form → List Word
  | .mk s _ text children =>
    match unaliased s with
    | .terminal t => [⟨t, text⟩]
    | _ => wordsOfAll children

/-- The words of the tokens below a list of forms, in order. -/
def wordsOfAll : List Form → List Word
  | [] => []
  | f :: rest => f.words ++ wordsOfAll rest

end

mutual

/-- Whether no identifier of a form is spelled like a keyword. -/
def namesFree : Form → Bool
  | .mk s _ text children =>
    (s ≠ .terminal .identifier || !spellsKeyword text) && namesFreeAll children

/-- Whether no identifier of a list of forms is spelled like a keyword. -/
def namesFreeAll : List Form → Bool
  | [] => true
  | f :: rest => namesFree f && namesFreeAll rest

end

/-- What a rule sees of a form that is no comment. -/
def item (f : Form) : Grammar.Item := ⟨f.symbol, f.field⟩

/-- A form that can be read back from its words. -/
inductive Printable : Form → Prop
  | token {s : Symbol} {t : Terminal} {f : Option Field} {text : List Glyph}
      (shows : unaliased s = .terminal t) (stands : Word.Stands ⟨t, text⟩) :
      Printable (.mk s f text [])
  | phrase {s : Symbol} {n : Nonterminal} {f : Option Field} {children : List Form}
      (shows : unaliased s = .nonterminal n) (lasting : n.isRepetition = false)
      (follows : (rule n).Fits sameItem (children.map item))
      (keeps : keepsConventions (.mk s f [] children) = true)
      (below : ∀ c ∈ children, Printable c) : Printable (.mk s f [] children)

theorem isComment_of_dropComments {forms : List Form} (h : dropComments forms = forms) :
    ∀ c ∈ forms, c.isComment = false ∧ c.withoutComments = c := by
  have hle : ∀ forms : List Form, (dropComments forms).length ≤ forms.length := fun forms => by
    rw [Grammar.dropComments_eq, List.length_map]
    exact List.length_filter_le ..
  induction forms with
  | nil => nofun
  | cons f forms ih =>
    cases hc : f.isComment with
    | true =>
      rw [dropComments, hc, if_pos rfl] at h
      have hlength := congrArg List.length h
      have hlt := hle forms
      rw [List.length_cons] at hlength
      omega
    | false =>
      rw [dropComments, hc, if_neg (by simp)] at h
      obtain ⟨hf, hrest⟩ := List.cons.inj h
      rw [List.forall_mem_cons]
      exact ⟨⟨hc, hf⟩, ih hrest⟩

theorem items_of_plain {forms : List Form} (h : ∀ c ∈ forms, c.isComment = false) :
    items forms = forms.map item := by
  have hall : forms.filter (fun c => !c.isComment) = forms :=
    List.filter_eq_self.2 fun c hc => by simp [h c hc]
  rw [items, hall]
  rfl

theorem isRepetition_of_mem_letters {n m : Nonterminal} {i : Grammar.Item} (hi : i ∈ (rule n).letters)
    (shows : unaliased i.symbol = .nonterminal m) : m.isRepetition = false := by
  have hall : ∀ i ∈ (rule n).letters, i.isRepetition = false := by
    cases n <;> decide +kernel
  have hitem := hall i hi
  obtain ⟨s, field⟩ := i
  cases s with
  | terminal => cases shows
  | nonterminal => exact Symbol.nonterminal.inj shows ▸ hitem
  | «alias» => exact isRepetition_of_unaliased shows
  | error => cases shows

theorem conventionalAll_iff {forms : List Form} :
    conventionalAll forms = true ↔ ∀ c ∈ forms, conventional c = true := by
  induction forms with
  | nil => simp [conventionalAll]
  | cons f forms ih => rw [conventionalAll, Bool.and_eq_true, ih, List.forall_mem_cons]

theorem namesFreeAll_iff {forms : List Form} :
    namesFreeAll forms = true ↔ ∀ c ∈ forms, namesFree c = true := by
  induction forms with
  | nil => simp [namesFreeAll]
  | cons f forms ih => rw [namesFreeAll, Bool.and_eq_true, ih, List.forall_mem_cons]

/-- A form that derives is printable, if it has no comments, and neither ambiguous groups nor names. -/
theorem printable_of_derives {f : Form} (h : Derives f) (plain : f.isComment = false)
    (bare : f.withoutComments = f) (groups : conventional f = true) (free : f.namesFree = true)
    (lasting : ∀ n, unaliased f.symbol = .nonterminal n → n.isRepetition = false) : Printable f := by
  induction h with
  | @token s t field text shows lexeme =>
    have hs : ∀ k, unaliased s = .terminal k → k ≠ .variableName → s = .terminal k := by
      intro k hk hne
      cases s with
      | terminal => exact hk
      | nonterminal => cases hk
      | «alias» a =>
        cases a with
        | sentLiteral => cases hk
        | accountVar => exact absurd (Symbol.terminal.inj hk).symm hne
      | error => cases hk
    refine .token shows ⟨?_, lexeme, fun hidentifier => ?_⟩
    · rw [Terminal.isComment_eq]
      by_contra hc
      simp only [Bool.not_eq_false, Bool.or_eq_true, decide_eq_true_eq] at hc
      simp only [isComment, Form.symbol, Bool.or_eq_false_iff] at plain
      rcases hc with rfl | rfl
      · exact of_decide_eq_false plain.1 (hs _ shows (by decide))
      · exact of_decide_eq_false plain.2 (hs _ shows (by decide))
    · obtain rfl : t = .identifier := hidentifier
      rw [namesFree, Bool.and_eq_true, hs _ shows (by decide)] at free
      simpa using free.1
  | @phrase s n field children shows follows below ih =>
    have hchildren := isComment_of_dropComments (Form.mk.inj bare).2.2.2
    rw [items_of_plain fun c hc => (hchildren c hc).1] at follows
    rw [conventional, Bool.and_eq_true, conventionalAll_iff] at groups
    rw [namesFree, Bool.and_eq_true, namesFreeAll_iff] at free
    refine .phrase shows (lasting n shows) follows groups.1 fun c hc => ?_
    obtain ⟨i, hi, hsame⟩ := Regular.exists_letter follows (List.mem_map_of_mem hc)
    obtain rfl := Grammar.sameItem_iff.1 hsame
    exact ih c hc (hchildren c hc).1 (hchildren c hc).2 (groups.2 c hc) (free.2 c hc)
      fun m hm => isRepetition_of_mem_letters hi hm

theorem wordsOfAll_eq (forms : List Form) : wordsOfAll forms = forms.flatMap words := by
  induction forms with
  | nil => rfl
  | cons f forms ih => rw [wordsOfAll, ih, List.flatMap_cons]

theorem leavesOfAll_eq (forms : List Form) : leavesOfAll forms = forms.flatMap leaves := by
  induction forms with
  | nil => rfl
  | cons f forms ih => rw [leavesOfAll, ih, List.flatMap_cons]

theorem Printable.stands {f : Form} (h : f.Printable) : ∀ w ∈ f.words, w.Stands := by
  induction h with
  | token shows stands =>
    rw [words, shows]
    simpa using stands
  | phrase shows _ _ _ _ ih =>
    rw [words, shows, wordsOfAll_eq]
    intro w hw
    obtain ⟨c, hc, hw⟩ := List.mem_flatMap.1 hw
    exact ih c hc w hw

theorem Printable.leaves_eq {f : Form} (h : f.Printable) : f.leaves = f.words.map (·.text) := by
  induction h with
  | @token s t field text shows stands =>
    have htext : text ≠ [] := Lexer.ne_nil_of_isLexeme stands.lexeme
    rw [words, shows, leaves, if_neg (by simpa using htext)]
    rfl
  | @phrase s n field children shows _ _ _ _ ih =>
    have hleaves : leaves (.mk s field [] children) = leavesOfAll children := by
      cases children <;> rfl
    rw [words, shows, hleaves, leavesOfAll_eq, wordsOfAll_eq, List.map_flatMap]
    exact List.flatMap_congr ih

end Form
end Numscript
