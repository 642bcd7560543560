import Numscript.Proofs.Lexer.Number
import Numscript.Proofs.Parser.Astray
import Numscript.Proofs.Parser.Lookahead
import Numscript.Proofs.Parser.Reconverge

/-!
# Readings beside each other

Any two readings on a frontier are twins, or they have parted at a hyphen. Where they have parted, the one
that took the hyphen as an operator reads the digits behind it, and both are astray, or it reads them as
a percentage, and then the other one stands before a decimal point or a percent sign, where nothing begins
that it could read.
-/
namespace Numscript.Parser

open Automaton (actions finds? twinPairs conflictPairs astrayTops astrayPairs astrayBases leads?
  reduction?)
open Grammar (IsLexeme satisfies)

/-- What two readings on a frontier have to do with each other, where the first one has the conflict open,
or has read the hyphen as an operator. -/
inductive Beside (text : List Glyph) : Reading → Reading → Prop where
  | twin {x y : Reading} (point : x.point = y.point) (twin : Twin x.stack y.stack) : Beside text x y
  | astray {x y : Reading} (point : x.point = y.point)
      (astray : Astray x.stack.spine y.stack.spine)
      (inner : (top x.stack.spine, top y.stack.spine) ∉ astrayBases) : Beside text x y
  /-- The second one has read the number behind the hyphen as well. -/
  | ahead {x y : Reading} {before word rest : List Glyph} (split : text = before ++ (word ++ rest))
      (begun : before ≠ []) (place : x.point = Point.origin.behind before)
      (place' : y.point = Point.origin.behind (before ++ word))
      (number : Lexer.unsigned.Fits satisfies word)
      (longest : ∀ v tail, word ++ rest = v ++ tail → IsLexeme .number v → v.length ≤ word.length)
      (departs : Departs x.stack.spine y.stack.spine) : Beside text x y
  /-- The first one has read a percentage that goes on where the second one stands. -/
  | doomed {x y : Reading} {before rest : List Glyph} {g : Glyph} {cls : Lexer.CharClass}
      (split : text = before ++ g :: rest) (begun : before ≠ [])
      (place : y.point = Point.origin.behind before) (behind : y.point.byte < x.point.byte)
      (state : top y.stack.spine = 276) (mem : cls ∈ Lexer.portionTail.firsts)
      (sat : satisfies cls g = true) : Beside text x y

theorem byte_ne_zero {before : List Glyph} (h : before ≠ []) :
    (Point.origin.behind before).byte ≠ 0 := by
  intro hbyte
  rw [Point.origin_behind_byte] at hbyte
  exact h (Glyph.eq_nil_of_totalSize hbyte)

/-- A hyphen that is read as an operator here, and as a sign there. -/
theorem Beside.of_departs {x y x' y' : Reading} {text before rest : List Glyph} {a b : Token}
    {e e' : Ending} (split : text = before ++ rest) (place : x.point = Point.origin.behind before)
    (point : x.point = y.point) (hx : x.Does rest a e) (hy : y.Does rest b e')
    (minus : a.kind = .minus) (number : b.kind = .number) (hx' : x'.point = a.stop)
    (hy' : y'.point = b.stop) (departs : Departs x'.stack.spine y'.stack.spine) :
    Beside text x' y' := by
  have hmore : Lexer.body x.point rest ≠ [] := by
    intro hover
    have hkind := hx.over_iff.2 hover
    rw [minus] at hkind
    cases hkind
  obtain ⟨g, tail, hbody⟩ := List.exists_cons_of_ne_nil hmore
  obtain ⟨v, more, hsplit, hv, hstop, _⟩ := hx.word hbody
  obtain ⟨w, more', hsplit', hw, hstop', longest⟩ := hy.word (point ▸ hbody)
  have hrest := Lexer.lead_append_body x.point rest
  rw [hbody] at hrest
  rw [← point] at hstop'
  generalize Lexer.lead x.point rest = gap at hstop hstop' hrest
  rw [minus] at hv
  rw [number] at hw longest
  rw [Lexer.isLexeme_minus hv] at hsplit hstop
  obtain ⟨g', w, rfl⟩ := List.exists_cons_of_ne_nil (Lexer.ne_nil_of_isLexeme hw)
  obtain rfl : g = Lexer.hyphen := (List.cons.inj hsplit).1
  obtain rfl : Lexer.hyphen = g' := (List.cons.inj hsplit').1
  have htail : tail = w ++ more' := (List.cons.inj hsplit').2
  subst htail
  have hfits := Lexer.unsigned_of_signed hw
  rw [place, ← Point.behind_append] at hstop hstop'
  rw [← hx'] at hstop
  rw [← hy'] at hstop'
  have hahead : text = before ++ (gap ++ [Lexer.hyphen]) ++ (w ++ more') := by
    rw [split, ← hrest]
    simp
  refine .ahead hahead (by simp) hstop ?_ hfits ?_ departs
  · rw [hstop']
    simp
  · intro u more'' htail hu
    obtain ⟨d, w', rfl, hdigit⟩ := Lexer.exists_digit hfits
    obtain ⟨d', u, rfl⟩ := List.exists_cons_of_ne_nil (Lexer.ne_nil_of_isLexeme hu)
    obtain rfl : d = d' := (List.cons.inj htail).1
    have hsigned := Lexer.signed_of_unsigned (Lexer.unsigned_of_digit hdigit hu)
    have hle := longest (Lexer.hyphen :: d :: u) more'' (by rw [htail]; rfl) hsigned
    simpa using hle

/-- Twins in the same place go on with the same token, or they part at a hyphen. -/
theorem Reading.Does.twin {x y : Reading} {rest : List Glyph} {a b : Token} {e e' : Ending}
    (hx : x.Does rest a e) (hy : y.Does rest b e') (point : x.point = y.point)
    (pair : (x.stack.state, y.stack.state) ∈ twinPairs) (twin : Twin x.stack y.stack) :
    a = b ∨ a.kind = .minus ∧ b.kind = .number ∧ ∃ s t, e = .pushed s ∧ e' = .pushed t ∧
      Departs s.spine t.spine := by
  rw [← hx.viable.top_spine, ← hy.viable.top_spine] at pair
  rcases Automaton.finds_twinPairs _ pair _ hx.mem_actions _ hy.mem_actions with
    hfinds | ⟨hdiscord, hconflict, houter, hne⟩
  · exact .inl (hx.eq_of_finds? hy point hfinds)
  · have hkinds : ∀ d ∈ Automaton.discords, d.1 ≠ .endOfText ∧ d.2 ≠ .endOfText ∧
        d.1.isComment = false ∧ d.2.isComment = false := by decide
    obtain ⟨hmore, hmore', hplain, hplain'⟩ := hkinds _ hdiscord
    obtain ⟨s, rfl⟩ := hx.settles.exists_pushed hmore
    obtain ⟨t, rfl⟩ := hy.settles.exists_pushed hmore'
    have h32 : ∀ p ∈ conflictPairs, p.1 = 32 → p = (32, 38) := by decide
    have hfacing := twin.facing hx.viable hy.viable
      (by rw [← hx.viable.top_spine, ← hy.viable.top_spine]; exact hconflict)
      (by rw [← hx.viable.top_spine]; exact houter)
    obtain ⟨hminus, hnumber, hdeparts⟩ := hfacing.departs (fun htop => hne (h32 _ hconflict htop))
      hdiscord (hx.settles.takes hx.viable hplain) (hy.settles.takes hy.viable hplain')
    exact .inr ⟨hminus, hnumber, s, t, rfl, rfl, hdeparts⟩

/-- Twins in the same place stay beside each other. -/
theorem Beside.of_twin {x y x' y' : Reading} {text before rest : List Glyph} {a b : Token}
    (split : text = before ++ rest) (place : x.point = Point.origin.behind before)
    (point : x.point = y.point) (twin : Twin x.stack y.stack)
    (hx : x.Does rest a (.pushed x'.stack)) (hy : y.Does rest b (.pushed y'.stack))
    (hx' : x'.point = a.stop) (hy' : y'.point = b.stop) :
    Beside text x' y' ∨ Beside text y' x' := by
  have hsame : a = b → Beside text x' y' := by
    rintro rfl
    cases twin.settles hx.settles hy.settles with
    | pushed h => exact .twin (hx'.trans hy'.symm) h
  rcases twin.tops with heq | hpair | hpair
  · refine .inl (hsame (Option.some.inj ?_))
    rw [← hx.read, ← hy.read]
    exact Reading.token?_congr point heq rest
  · rcases hx.twin hy point hpair twin with heq | ⟨hminus, hnumber, s, t, hs, ht, hdeparts⟩
    · exact .inl (hsame heq)
    · cases hs
      cases ht
      exact .inl (.of_departs split place point hx hy hminus hnumber hx' hy' hdeparts)
  · rcases hy.twin hx point.symm hpair twin.symm with heq | ⟨hminus, hnumber, s, t, hs, ht, hdeparts⟩
    · exact .inl (hsame heq.symm)
    · cases hs
      cases ht
      exact .inr (.of_departs split (point ▸ place) point.symm hy hx hminus hnumber hy' hx' hdeparts)

/-- Readings that are astray stay so. -/
theorem Beside.of_astray {x y x' y' : Reading} {text rest : List Glyph} {a b : Token}
    (point : x.point = y.point) (astray : Astray x.stack.spine y.stack.spine)
    (inner : (top x.stack.spine, top y.stack.spine) ∉ astrayBases)
    (hx : x.Does rest a (.pushed x'.stack)) (hy : y.Does rest b (.pushed y'.stack))
    (hx' : x'.point = a.stop) (hy' : y'.point = b.stop) : Beside text x' y' := by
  have hsame : a = b → Beside text x' y' := by
    rintro rfl
    by_cases hcomment : a.kind.isComment = true
    · refine .astray (hx'.trans hy'.symm) ?_ ?_
      · rwa [hx.settles.spine_of_comment hcomment, hy.settles.spine_of_comment hcomment]
      · rwa [hx.settles.spine_of_comment hcomment, hy.settles.spine_of_comment hcomment]
    · have hplain : a.kind.isComment = false := by simpa using hcomment
      have hs := hx.settles.takes hx.viable hplain
      have ht := hy.settles.takes hy.viable hplain
      exact .astray (hx'.trans hy'.symm) (astray.takes hplain hs ht) ht.not_base
  have htops := Astray.tops astray
  rw [astrayTops, List.append_assoc] at htops
  rcases List.mem_append.1 ((List.mem_append.1 htops).resolve_left inner) with hpair | hvalue
  · rcases Automaton.finds_astrayPairs _ hpair _ hx.mem_actions _ hy.mem_actions with
      hfinds | ⟨hword, hkeyword⟩
    · exact hsame (hx.eq_of_finds? hy point hfinds)
    · have hkinds : ∀ k ∈ [Terminal.kwRemaining, .kwDestination, .kwFrom, .kwAllowing, .kwTo, .kwMax,
          .destinationKept], k.isComment = false := by decide
      have hs := hx.settles.takes hx.viable (by rw [hword]; rfl)
      rw [hword] at hs
      exact (astray.refuses inner hkeyword hs (hy.settles.takes hy.viable (hkinds _ hkeyword))).elim
  · obtain ⟨q, _, hq⟩ := List.mem_map.1 hvalue
    obtain ⟨hfirst, hsecond⟩ := Prod.mk.inj hq
    rw [hx.viable.top_spine] at hfirst
    rw [hy.viable.top_spine] at hsecond
    refine hsame (Option.some.inj ?_)
    rw [← hx.read, ← hy.read]
    exact Reading.token?_congr point (hfirst.symm.trans hsecond) rest

theorem operand_kinds : ∀ k ∈ actions 80, k = .number ∨ k = .percentagePortion ∨
    ∀ c ∈ (Grammar.lexeme k).firsts, c.apart .digit = true := by
  decide +kernel

/-- The reading that took the hyphen as an operator reads the number or a percentage. -/
theorem Beside.of_ahead {x y x' : Reading} {text before word rest : List Glyph} {a : Token}
    (split : text = before ++ (word ++ rest)) (begun : before ≠ [])
    (place : x.point = Point.origin.behind before)
    (place' : y.point = Point.origin.behind (before ++ word))
    (number : Lexer.unsigned.Fits satisfies word)
    (longest : ∀ v tail, word ++ rest = v ++ tail → IsLexeme .number v → v.length ≤ word.length)
    (departs : Departs x.stack.spine y.stack.spine)
    (hx : x.Does (word ++ rest) a (.pushed x'.stack)) (hx' : x'.point = a.stop) :
    Beside text x' y := by
  obtain ⟨d, w, rfl, hdigit⟩ := Lexer.exists_digit number
  have hblank : d.isBlank = false := @Lexer.not_isBlank_of_apart .digit (by decide) d hdigit
  have hbody : Lexer.body x.point (d :: w ++ rest) = d :: (w ++ rest) :=
    Lexer.body_of_head (place ▸ byte_ne_zero begun) hblank
  obtain ⟨v, more, hsplit, hlexeme, hstop, hlongest⟩ := hx.word hbody
  rw [Lexer.lead_eq_nil hbody, List.nil_append, place, ← Point.behind_append, ← hx'] at hstop
  have hstate : top x.stack.spine = 80 := by
    obtain ⟨l, hl⟩ := departs.operator
    rw [hl]
    rfl
  rcases operand_kinds _ (hstate ▸ hx.mem_actions) with hkind | hkind | happart
  · rw [hkind] at hlexeme hlongest
    have hlength := Nat.le_antisymm (longest v more hsplit hlexeme)
      (hlongest (d :: w) rest rfl (Lexer.number_of_unsigned number))
    obtain ⟨rfl, rfl⟩ := List.append_inj hsplit hlength.symm
    have htakes := hx.settles.takes hx.viable (by rw [hkind]; rfl)
    rw [hkind] at htakes
    obtain ⟨hastray, htogether⟩ := departs.astray htakes
    exact .astray (hstop.trans place'.symm) hastray htogether.not_base
  · rw [hkind] at hlexeme
    obtain ⟨hlt, g, tail, rfl, cls, hcls, hsat⟩ := Lexer.portion_of_number hlexeme
      (Lexer.number_of_unsigned number) hsplit rfl longest
    have hahead : text = (before ++ d :: w) ++ g :: tail := by simpa using split
    refine .doomed hahead (by simp) place' ?_ departs.top_sign hcls hsat
    rw [place', hstop, Point.origin_behind_byte, Point.origin_behind_byte,
      Glyph.totalSize_append, Glyph.totalSize_append]
    have hbytes := Glyph.totalSize_lt hsplit hlt
    omega
  · obtain ⟨g, v, rfl⟩ := List.exists_cons_of_ne_nil (Lexer.ne_nil_of_isLexeme hlexeme)
    obtain rfl : d = g := (List.cons.inj hsplit).1
    obtain ⟨c, hc, hsat⟩ := Regular.exists_first hlexeme
    exact (Lexer.not_satisfies_of_apart (happart c hc) hsat hdigit).elim

theorem behind_number : ∀ k ∈ actions 276, ∀ c ∈ (Grammar.lexeme k).firsts,
    ∀ d ∈ Lexer.portionTail.firsts, c.apart d = true := by
  decide +kernel

/-- A reading behind a number does nothing where a percentage goes on. -/
theorem not_does_of_tail {y : Reading} {before rest : List Glyph} {g : Glyph}
    {cls : Lexer.CharClass} {b : Token} {e : Ending} (begun : before ≠ [])
    (place : y.point = Point.origin.behind before) (state : top y.stack.spine = 276)
    (mem : cls ∈ Lexer.portionTail.firsts) (sat : satisfies cls g = true)
    (hy : y.Does (g :: rest) b e) : False := by
  have hblanks : ∀ d ∈ Lexer.portionTail.firsts, d.apart Lexer.blank = true := by decide
  have hbody : Lexer.body y.point (g :: rest) = g :: rest :=
    Lexer.body_of_head (place ▸ byte_ne_zero begun)
      (Lexer.not_isBlank_of_apart (hblanks cls mem) sat)
  obtain ⟨v, more, hsplit, hlexeme, _⟩ := hy.word hbody
  obtain ⟨g', v, rfl⟩ := List.exists_cons_of_ne_nil (Lexer.ne_nil_of_isLexeme hlexeme)
  obtain rfl : g = g' := (List.cons.inj hsplit).1
  obtain ⟨c, hc, hsat⟩ := Regular.exists_first hlexeme
  exact Lexer.not_satisfies_of_apart (behind_number _ (state ▸ hy.mem_actions) c hc cls mem) hsat sat

/-- A reading on a frontier stays, or it reads its next token. -/
theorem Frontier.stays_or_does {text before rest : List Glyph} {r r' : Reading}
    (h : Frontier text before r) (next : r' ∈ r.nexts (Point.origin.behind before) rest) :
    r.point ≠ Point.origin.behind before ∧ r' = r ∨ r.point = Point.origin.behind before ∧
      ∃ token, r.Does rest token (.pushed r'.stack) ∧ r'.point = token.stop := by
  by_cases hp : r.point = Point.origin.behind before
  · rw [← hp] at next
    exact .inr ⟨hp, does_of_mem_nexts h.viable next⟩
  · rw [nexts_of_ne hp] at next
    exact .inl ⟨hp, List.mem_singleton.1 next⟩

/-- Readings that are beside each other stay so when the frontier moves on. -/
theorem Beside.next {text before rest : List Glyph} {x y x' y' : Reading} (h : Beside text x y)
    (hx : Frontier text before x) (hy : Frontier text before y) (split : text = before ++ rest)
    (next : x' ∈ x.nexts (Point.origin.behind before) rest)
    (next' : y' ∈ y.nexts (Point.origin.behind before) rest) :
    Beside text x' y' ∨ Beside text y' x' := by
  have hstay := hx.stays_or_does next
  have hstay' := hy.stays_or_does next'
  cases h with
  | twin point twin =>
    rcases hstay with ⟨hp, rfl⟩ | ⟨hp, a, hdoes, hstop⟩
    · obtain ⟨_, rfl⟩ := hstay'.resolve_right fun h => hp (point.trans h.1)
      exact .inl (.twin point twin)
    · obtain ⟨_, b, hdoes', hstop'⟩ := hstay'.resolve_left fun h => h.1 (point.symm.trans hp)
      exact Beside.of_twin split hp point twin hdoes hdoes' hstop hstop'
  | astray point astray inner =>
    rcases hstay with ⟨hp, rfl⟩ | ⟨hp, a, hdoes, hstop⟩
    · obtain ⟨_, rfl⟩ := hstay'.resolve_right fun h => hp (point.trans h.1)
      exact .inl (.astray point astray inner)
    · obtain ⟨_, b, hdoes', hstop'⟩ := hstay'.resolve_left fun h => h.1 (point.symm.trans hp)
      exact .inl (.of_astray point astray inner hdoes hdoes' hstop hstop')
  | @ahead front word tail split' begun place place' number longest departs =>
    have hbehind : y.point ≠ Point.origin.behind before := by
      intro hp
      obtain ⟨d, w, rfl, _⟩ := Lexer.exists_digit number
      have hle := hx.byte_le
      have hsize := congrArg Point.byte (place'.symm.trans hp)
      rw [place, Point.origin_behind_byte] at hle
      rw [Point.origin_behind_byte, Point.origin_behind_byte, Glyph.totalSize_append,
        Glyph.totalSize] at hsize
      have hpos := d.size_pos
      omega
    obtain ⟨_, rfl⟩ := hstay'.resolve_right fun h => hbehind h.1
    rcases hstay with ⟨_, rfl⟩ | ⟨hp, a, hdoes, hstop⟩
    · exact .inl (.ahead split' begun place place' number longest departs)
    · obtain ⟨rfl, rfl⟩ := Point.eq_of_behind (split'.symm.trans split) (place.symm.trans hp)
      exact .inl (.of_ahead split' begun place place' number longest departs hdoes hstop)
  | doomed split' begun place behind state mem sat =>
    have hfurther : x.point ≠ Point.origin.behind before := by
      intro hp
      have hle := hy.byte_le
      rw [hp, Point.origin_behind_byte] at behind
      omega
    obtain ⟨_, rfl⟩ := hstay.resolve_right fun h => hfurther h.1
    rcases hstay' with ⟨_, rfl⟩ | ⟨hp, b, hdoes, _⟩
    · exact .inl (.doomed split' begun place behind state mem sat)
    · obtain ⟨rfl, rfl⟩ := Point.eq_of_behind (split'.symm.trans split) (place.symm.trans hp)
      exact (not_does_of_tail begun place state mem sat hdoes).elim

theorem Frontier.beside {text before : List Glyph} {x y : Reading} (hx : Frontier text before x)
    (hy : Frontier text before y) : Beside text x y ∨ Beside text y x := by
  induction hx generalizing y with
  | start =>
    generalize hb : ([] : List Glyph) = b at hy
    cases hy with
    | start => exact .inl (.twin rfl .empty)
    | next => simp at hb
  | @next before rest g x x' reached split next ih =>
    generalize hb : before ++ [g] = b at hy
    cases hy with
    | start => simp at hb
    | @next before' rest' g' y _ reached' split' next' =>
      obtain ⟨rfl, hg⟩ := List.append_inj' hb rfl
      obtain rfl : g = g' := (List.cons.inj hg).1
      obtain rfl : rest = rest' := (List.cons.inj (List.append_cancel_left (split.symm.trans split'))).2
      rcases ih reached' with h | h
      · exact h.next reached reached' split next next'
      · exact (h.next reached' reached split next' next).symm

end Numscript.Parser
