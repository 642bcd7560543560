import Numscript.Proofs.Automaton.Pairs
import Numscript.Proofs.Lexer.Lookahead
import Numscript.Proofs.Regular.Letters

/-!
# Tokens of their own mode

A token that a state acts on is one that its mode expects. So what the mode cannot find, and is looked for
among all tokens, leads nowhere: every token that is pushed or reduced on is the longest match of the mode
of its own state. Two modes find the same token if each expects what the other one finds.
-/
namespace Numscript

namespace Lexer

open Grammar (IsLexeme lexeme satisfies)

/-- Whether no code point lies in both of two classes. -/
def CharClass.apart (c d : CharClass) : Bool :=
  c.all fun r => d.all fun s => r.2 < s.1 || s.2 < r.1

/-- Whether no lexeme of the one token begins like one of the other. -/
def apart (a b : Terminal) : Bool :=
  (lexeme a).firsts.all fun c => (lexeme b).firsts.all fun d => c.apart d

theorem not_covers_of_apart {c d : CharClass} (h : c.apart d = true) {code : Nat}
    (hc : c.covers code = true) (hd : d.covers code = true) : False := by
  obtain ⟨r, hr, hcode⟩ := List.any_eq_true.1 hc
  obtain ⟨s, hs, hcode'⟩ := List.any_eq_true.1 hd
  have happart := List.all_eq_true.1 (List.all_eq_true.1 h r hr) s hs
  simp only [Bool.and_eq_true, Bool.or_eq_true, decide_eq_true_eq] at hcode hcode' happart
  omega

theorem not_satisfies_of_apart {c d : CharClass} (h : c.apart d = true) {g : Glyph}
    (hc : satisfies c g = true) (hd : satisfies d g = true) : False := by
  cases g with
  | stray => cases hc
  | char code => exact not_covers_of_apart h hc hd

theorem eq_of_satisfies_only {c : Char} {g : Glyph} (h : satisfies (.only c) g = true) :
    g = .char c.toNat := by
  cases g with
  | stray => cases h
  | char code =>
    have hcode : CharClass.covers (.only c) code = true := h
    simp only [CharClass.covers, CharClass.only, List.any_cons, List.any_nil, Bool.or_false,
      Bool.and_eq_true, decide_eq_true_eq] at hcode
    rw [Nat.le_antisymm hcode.2 hcode.1]

/-- The glyphs of a lexeme are code points of the classes it is made of. -/
theorem exists_char_of_isLexeme {t : Terminal} {w : List Glyph} (h : IsLexeme t w) {g : Glyph}
    (hg : g ∈ w) :
    ∃ code, g = .char code ∧ ∃ cls ∈ (lexeme t).letters, cls.covers code = true := by
  obtain ⟨cls, hcls, hsat⟩ := Regular.exists_letter h hg
  cases g with
  | stray => cases hsat
  | char code => exact ⟨code, rfl, cls, hcls, hsat⟩

/-- White space as a class of code points. -/
def blank : CharClass := [(9, 13), (32, 32)]

theorem not_isBlank_of_apart {cls : CharClass} (h : cls.apart blank = true) {g : Glyph}
    (hg : satisfies cls g = true) : g.isBlank = false := by
  cases hblank : g.isBlank with
  | false => rfl
  | true =>
    cases g with
    | stray => cases hg
    | char code =>
      refine (not_covers_of_apart h hg ?_).elim
      simp only [Glyph.isBlank, Bool.or_eq_true, Bool.and_eq_true, decide_eq_true_eq] at hblank
      simp only [CharClass.covers, blank, List.any_cons, List.any_nil, Bool.or_false,
        Bool.or_eq_true, Bool.and_eq_true, decide_eq_true_eq]
      omega

theorem not_isLexeme_of_apart {a b : Terminal} (h : apart a b = true) {g : Glyph}
    {v w : List Glyph} (ha : IsLexeme a (g :: v)) (hb : IsLexeme b (g :: w)) : False := by
  obtain ⟨c, hc, hcg⟩ := Regular.exists_first ha
  obtain ⟨d, hd, hdg⟩ := Regular.exists_first hb
  exact not_satisfies_of_apart (List.all_eq_true.1 (List.all_eq_true.1 h c hc) d hd) hcg hdg

namespace Residue

/-- Longest matches agree, if each residue lets the match of the other one fit. -/
theorem Munch.agree {u v : Residue} {text : List Glyph} {s t : Terminal}
    {w w' rest rest' : List Glyph} (h : u.Munch text s w rest) (h' : v.Munch text t w' rest')
    (fits : v.Fits s w) (fits' : u.Fits t w') : s = t ∧ w = w' ∧ rest = rest' := by
  have hlength : w.length = w'.length :=
    Nat.le_antisymm (h'.isLongest _ _ _ h.split fits) (h.isLongest _ _ _ h'.split fits')
  obtain ⟨rfl, rfl⟩ := List.append_inj (h.split.symm.trans h'.split) hlength
  refine ⟨?_, rfl, rfl⟩
  have hindex := Nat.le_antisymm (h.isLeast _ fits') (h'.isLeast _ fits)
  have hinj : ∀ s ∈ Terminal.all, ∀ t ∈ Terminal.all, s.index = t.index → s = t := by
    decide +kernel
  exact hinj s (Terminal.mem_all s) t (Terminal.mem_all t) hindex

/-- The longest match is told by the text. -/
theorem Munch.unique {v : Residue} {text : List Glyph} {s t : Terminal}
    {w w' rest rest' : List Glyph} (h : v.Munch text s w rest) (h' : v.Munch text t w' rest') :
    s = t ∧ w = w' ∧ rest = rest' :=
  h.agree h' h.fits h'.fits

end Residue

/-- The longest match of a mode is the token that its run finds. -/
theorem token?_of_munch {mode : Nat} (h : IsMode mode) {p : Point} {text : List Glyph}
    {t : Terminal} {w rest : List Glyph} (hm : (initial mode).Munch (body p text) t w rest) :
    (run mode p text).token? text =
      some ⟨t, p.behind (lead p text), p.behind (lead p text ++ w)⟩ := by
  have hw : w ≠ [] := ne_nil_of_isLexeme (fits_initial_iff.1 hm.fits).2
  have hbody : body p text ≠ [] := by
    rw [hm.split]
    exact fun h => hw (List.append_eq_nil_iff.1 h).1
  obtain ⟨hsome, hnone⟩ := Residue.longest_spec (initial_ordered mode) (body p text)
  rw [token?_run h, if_neg fun hend => hbody hend.1]
  cases hlongest : (initial mode).longest (body p text) with
  | none => exact absurd hm.fits (hnone hlongest t w rest hm.split)
  | some f =>
    obtain ⟨v, rest', hv, hmunch⟩ := hsome f.1 f.2 hlongest
    obtain ⟨hkind, rfl, -⟩ := hmunch.unique hm
    rw [Option.map_some, hmunch.split, ← hv, List.take_left, hkind]

end Lexer

namespace Automaton

/-- Whether a state does something with a token. -/
def acts (q : Nat) (t : Terminal) : Bool :=
  t.isComment || (leads? q (.terminal t)).isSome || (reduction? q t).isSome ||
    q = final && t = .endOfText

/-- Whether the mode of a state finds a token. -/
def State.finds (s : State) (t : Terminal) : Bool :=
  if t = .endOfText then (Lexer.state s.mode).ends
  else t.isComment || (Lexer.expectedTokens s.mode).contains t

theorem finds_of_mem : ∀ page ∈ pages, ∀ s ∈ page, (∀ e ∈ s.shifts, s.finds e.1 = true) ∧
    ∀ r ∈ s.reductions, ∀ t ∈ r.2, s.finds t = true := by
  decide +kernel

theorem finds_of_acts {q : Nat} {s : State} {t : Terminal} (hs : state? q = some s)
    (h : acts q t = true) : s.finds t = true := by
  obtain ⟨page, hpage, hmem⟩ := mem_pages_of_state? hs
  obtain ⟨hshifts, hreductions⟩ := finds_of_mem page hpage s hmem
  have hfinal : ∀ s ∈ state? final, s.finds .endOfText = true := by decide +kernel
  simp only [acts, Bool.or_eq_true, Bool.and_eq_true, decide_eq_true_eq] at h
  rcases h with ((h | h) | h) | ⟨rfl, rfl⟩
  · cases t <;> first | rfl | cases h
  · obtain ⟨n, hn⟩ := Option.isSome_iff_exists.1 h
    rw [leads?, hs, Option.bind_some] at hn
    exact hshifts _ (mem_of_lookup hn)
  · obtain ⟨r, hr⟩ := Option.isSome_iff_exists.1 h
    rw [reduction?, hs, Option.bind_some] at hr
    obtain ⟨before, hmem, ht⟩ := State.mem_reductions hr
    exact hreductions _ hmem t ht
  · exact hfinal s hs

theorem State.expects_of_finds {s : State} {t : Terminal} (h : s.finds t = true) :
    if t = .endOfText then (Lexer.state s.mode).ends = true else t ∈ Lexer.expected s.mode := by
  unfold finds at h
  split at h
  · next heq => rwa [if_pos heq]
  · next hne =>
    rw [if_neg hne]
    exact List.mem_filter.2 ⟨Terminal.mem_all t, h⟩

end Automaton

namespace Lexer

/-- A token that a mode finds at a point of a text: its longest match, or the end of the text. -/
inductive Finds (mode : Nat) (p : Point) (text : List Glyph) : Token → Prop where
  | ends (isOver : body p text = []) (last : (state mode).ends = true) :
      Finds mode p text ⟨.endOfText, p.behind (lead p text), p.behind (lead p text)⟩
  | word {t : Terminal} {w rest : List Glyph}
      (munch : (initial mode).Munch (body p text) t w rest) :
      Finds mode p text ⟨t, p.behind (lead p text), p.behind (lead p text ++ w)⟩

theorem finds_of_run {mode : Nat} (h : IsMode mode) {p : Point} {text : List Glyph} {token : Token}
    (ht : (run mode p text).token? text = some token) : Finds mode p text token := by
  rw [token?_run h] at ht
  split at ht
  · next hend =>
    obtain rfl := Option.some.inj ht
    exact .ends hend.1 hend.2
  · obtain ⟨f, hf, rfl⟩ := Option.map_eq_some_iff.1 ht
    obtain ⟨w, rest, hw, hmunch⟩ :=
      (Residue.longest_spec (initial_ordered mode) (body p text)).1 f.1 f.2 hf
    have htake : (body p text).take f.2 = w := by rw [hmunch.split, ← hw, List.take_left]
    rw [htake]
    exact .word hmunch

theorem run_of_finds {mode : Nat} (h : IsMode mode) {p : Point} {text : List Glyph} {token : Token}
    (hf : Finds mode p text token) : (run mode p text).token? text = some token := by
  cases hf with
  | ends isOver last => rw [token?_run h, if_pos ⟨isOver, last⟩]
  | word munch => exact token?_of_munch h munch

theorem lookahead?_of_finds {mode : Nat} (h : IsMode mode) {p : Point} {text : List Glyph}
    {token : Token} (hf : Finds mode p text token) : lookahead? mode p text = some token := by
  rw [lookahead?, run_of_finds h hf, Option.some_or]

/-- A token that a mode expects is found by the mode itself. -/
theorem finds_of_lookahead? {mode : Nat} (h : IsMode mode) {p : Point} {text : List Glyph}
    {token : Token} (ht : lookahead? mode p text = some token)
    (own : if token.kind = .endOfText then (state mode).ends = true
      else token.kind ∈ expected mode) : Finds mode p text token := by
  rcases Option.or_eq_some_iff.1 ht with hrun | ⟨hnone, hrun⟩
  · exact finds_of_run h hrun
  · rw [token?_run h] at hnone
    split at hnone
    · cases hnone
    · next hend =>
      have hfinds := finds_of_run isMode_errorMode hrun
      have hlongest := Option.map_eq_none_iff.1 hnone
      cases hfinds with
      | ends isOver _ => exact absurd ⟨isOver, by simpa using own⟩ hend
      | @word t w rest munch =>
        obtain ⟨_, hlexeme⟩ := fits_initial_iff.1 munch.fits
        have hkind : t ≠ .endOfText := by
          rintro rfl
          exact not_isLexeme_endOfText hlexeme
        have hfits := fits_initial_iff.2 ⟨by simpa [hkind] using own, hlexeme⟩
        exact absurd hfits ((Residue.longest_spec (initial_ordered mode) (body p text)).2 hlongest
          t w rest munch.split)

/-- Whether two tokens that two modes find at the same place can be no different ones. -/
def agrees? (mode mode' : Nat) (a b : Terminal) : Bool :=
  a = .endOfText || b = .endOfText ||
    (expected mode').contains a && (expected mode).contains b || apart a b

theorem Finds.over_iff {mode : Nat} {p : Point} {text : List Glyph} {token : Token}
    (h : Finds mode p text token) : token.kind = .endOfText ↔ body p text = [] := by
  cases h with
  | ends isOver _ => exact ⟨fun _ => isOver, fun _ => rfl⟩
  | word munch =>
    have hlexeme := (fits_initial_iff.1 munch.fits).2
    constructor
    · rintro rfl
      exact absurd hlexeme not_isLexeme_endOfText
    · intro isOver
      have hsplit := munch.split
      rw [isOver] at hsplit
      exact absurd (List.append_eq_nil_iff.1 hsplit.symm).1 (ne_nil_of_isLexeme hlexeme)

theorem Finds.eq_of_over {mode : Nat} {p : Point} {text : List Glyph} {token : Token}
    (h : Finds mode p text token) (isOver : body p text = []) :
    token = ⟨.endOfText, p.behind (lead p text), p.behind (lead p text)⟩ := by
  have hkind := h.over_iff.2 isOver
  cases h with
  | ends => rfl
  | word munch =>
    obtain rfl : _ = Terminal.endOfText := hkind
    exact absurd (fits_initial_iff.1 munch.fits).2 not_isLexeme_endOfText

/-- Two modes find the same token, if each of them expects what the other one finds. -/
theorem Finds.unique {mode mode' : Nat} {p : Point} {text : List Glyph} {a b : Token}
    (h : Finds mode p text a) (h' : Finds mode' p text b)
    (told : agrees? mode mode' a.kind b.kind = true) : a = b := by
  by_cases hover : body p text = []
  · rw [h.eq_of_over hover, h'.eq_of_over hover]
  · have hend := mt h.over_iff.1 hover
    have hend' := mt h'.over_iff.1 hover
    cases h with
    | ends isOver => exact absurd isOver hover
    | @word s v rest munch =>
      cases h' with
      | ends isOver => exact absurd isOver hover
      | @word t w rest' munch' =>
        obtain ⟨_, hlexeme⟩ := fits_initial_iff.1 munch.fits
        obtain ⟨_, hlexeme'⟩ := fits_initial_iff.1 munch'.fits
        simp only [agrees?, hend, hend', decide_false, Bool.false_or, Bool.or_eq_true,
          Bool.and_eq_true, List.contains_iff_mem] at told
        rcases told with ⟨hfirst, hsecond⟩ | happart
        · obtain ⟨rfl, rfl, _⟩ := munch.agree munch' (fits_initial_iff.2 ⟨hfirst, hlexeme⟩)
            (fits_initial_iff.2 ⟨hsecond, hlexeme'⟩)
          rfl
        · obtain ⟨g, v', rfl⟩ := List.exists_cons_of_ne_nil (ne_nil_of_isLexeme hlexeme)
          obtain ⟨g', w', rfl⟩ := List.exists_cons_of_ne_nil (ne_nil_of_isLexeme hlexeme')
          have hsplit := munch.split.symm.trans munch'.split
          obtain rfl : g = g' := (List.cons.inj hsplit).1
          exact (not_isLexeme_of_apart happart hlexeme hlexeme').elim

/-- What a mode finds is found by another one that expects it, and nothing else that begins like it. -/
theorem Finds.also {mode mode' : Nat} {p : Point} {text : List Glyph} {token : Token}
    (h : Finds mode p text token) (more : token.kind ≠ .endOfText)
    (expects : token.kind ∈ expected mode')
    (told : ∀ a ∈ expected mode', a ∈ expected mode ∨ apart a token.kind = true) :
    Finds mode' p text token := by
  cases h with
  | ends => exact absurd rfl more
  | @word t w rest munch =>
    obtain ⟨_, hlexeme⟩ := fits_initial_iff.1 munch.fits
    obtain ⟨g, v, rfl⟩ := List.exists_cons_of_ne_nil (ne_nil_of_isLexeme hlexeme)
    have hfits : ∀ {a : Terminal} {w' rest' : List Glyph}, body p text = w' ++ rest' →
        (initial mode').Fits a w' → (initial mode).Fits a w' := by
      intro a w' rest' split fits
      obtain ⟨ha, hlexeme'⟩ := fits_initial_iff.1 fits
      refine fits_initial_iff.2 ⟨(told a ha).resolve_right fun happart => ?_, hlexeme'⟩
      obtain ⟨g', v', rfl⟩ := List.exists_cons_of_ne_nil (ne_nil_of_isLexeme hlexeme')
      obtain rfl : g = g' := (List.cons.inj (munch.split.symm.trans split)).1
      exact not_isLexeme_of_apart happart hlexeme' hlexeme
    exact .word ⟨munch.split, fits_initial_iff.2 ⟨expects, hlexeme⟩,
      fun a w' rest' split fits => munch.isLongest a w' rest' split (hfits split fits),
      fun a fits => munch.isLeast a (hfits munch.split fits)⟩

end Lexer
end Numscript
