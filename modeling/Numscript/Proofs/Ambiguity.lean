import Numscript.Program
import Numscript.Proofs.Parser.Preferred
import Numscript.Proofs.Parser.Run

/-!
# The conflict is the only ambiguity

A text may be read in several ways, but only where a single clause in braces takes what remains of a
destination. However deeply such braces are nested, the readings that stand at a place are in one of two
states, and those that accept have read the same tokens and found kin trees.
-/
namespace Numscript.Parser

open Automaton (twinPairs astrayPairs astrayBases astrayTops reduction?)

/-- No spines that are astray lead to the end of the program. -/
theorem Astray.not_accepts {token : Token} {s t : Stack} {a b : Tree}
    (h : Astray s.spine t.spine) (hs : Viable s) (ht : Viable t) (kind : token.kind = .endOfText)
    (x : Settles token s (.accepted a)) (y : Settles token t (.accepted b)) : False := by
  generalize he : Ending.accepted a = e at x
  have hacts : ∀ {s t : Stack} {e e' : Ending}, Astray s.spine t.spine → Viable s → Viable t →
      Settles token s e → Settles token t e' → s.state ≠ Automaton.final ∧
        (reduction? s.state token.kind = none ∨
          Automaton.reducesAlike (s.state, t.state) token.kind token.kind = true) := by
    intro s t e e' h hs ht x y
    have htops := Astray.tops h
    rw [hs.top_spine, ht.top_spine] at htops
    obtain ⟨hfinal, hcomment | ⟨hnone, _⟩ | halike | ⟨_, hplus | hminus⟩⟩ :=
      Automaton.acts_astrayTops _ htops token.kind (mem_actions x.acts) (mem_actions y.acts)
    · simp [kind, Terminal.isComment] at hcomment
    · exact ⟨hfinal, .inl hnone⟩
    · exact ⟨hfinal, .inr halike⟩
    · simp [kind] at hplus
    · simp [kind] at hminus
  induction x generalizing t with
  | pass => cases he
  | shift => cases he
  | accept final kind' alone above under =>
    exact (hacts h hs ht (.accept final kind' alone above under) y).1 final
  | @reduce s kept r e plain asks reduces rest ih =>
    rcases (hacts h hs ht (.reduce plain asks reduces rest) y).2 with hnone | halike
    · rw [asks] at hnone
      cases hnone
    · obtain ⟨_, _, r', hr, hr'⟩ := reducesAlike_spec halike
      obtain rfl := Option.some.inj (asks.symm.trans hr)
      cases y with
      | accept final =>
        rw [final, Automaton.reduction?_final _ (Terminal.mem_all _)] at hr'
        cases hr'
      | @reduce _ kept' _ _ _ asks' reduces' rest' =>
        obtain rfl := Option.some.inj (asks'.symm.trans hr')
        obtain ⟨n, leads, hspine⟩ := reduces.spine hs
        obtain ⟨m, leads', hspine'⟩ := reduces'.spine ht
        rw [← hs.top_spine] at asks
        rw [← ht.top_spine] at hr'
        have hnext := h.reduces asks hr' leads leads'
        rw [← hspine, ← hspine'] at hnext
        exact ih hnext.1 (hs.of_reduces reduces) (ht.of_reduces reduces') rest' he

/-- Where nothing is left of the text, any other reading on the frontier stands in the same place. -/
theorem Beside.over {text before rest : List Glyph} {x y : Reading}
    (h : Beside text x y ∨ Beside text y x) (hx : Frontier text before x)
    (hy : Frontier text before y) (split : text = before ++ rest)
    (place : x.point = Point.origin.behind before) (isOver : Lexer.body x.point rest = []) :
    x.point = y.point ∧ (Twin x.stack y.stack ∨ Astray x.stack.spine y.stack.spine ∨
      Astray y.stack.spine x.stack.spine) := by
  have hblank : ∀ {g : Glyph} {tail : List Glyph}, before ≠ [] → g.isBlank = false →
      rest ≠ g :: tail := by
    rintro g tail begun hg rfl
    rw [Lexer.body_of_head (place ▸ byte_ne_zero begun) hg] at isOver
    cases isOver
  have hle := hy.byte_le
  rw [← Point.origin_behind_byte, ← place] at hle
  rcases h with h | h
  · cases h with
    | twin point twin => exact ⟨point, .inl twin⟩
    | astray point astray => exact ⟨point, .inr (.inl astray)⟩
    | ahead split' begun place' _ number =>
      obtain ⟨rfl, hrest⟩ := Point.eq_of_behind (split'.symm.trans split) (place'.symm.trans place)
      obtain ⟨d, w, rfl, hdigit⟩ := Lexer.exists_digit number
      exact absurd hrest.symm (hblank begun
        (@Lexer.not_isBlank_of_apart .digit (by decide) d hdigit))
    | doomed _ _ _ behind => omega
  · cases h with
    | twin point twin => exact ⟨point.symm, .inl twin.symm⟩
    | astray point astray => exact ⟨point.symm, .inr (.inr astray)⟩
    | ahead _ _ place₁ place₂ number =>
      obtain ⟨d, w, rfl, _⟩ := Lexer.exists_digit number
      have hbyte := congrArg Point.byte place₁
      have hbyte' := congrArg Point.byte place₂
      rw [Point.origin_behind_byte] at hbyte hbyte'
      rw [Glyph.totalSize_append, Glyph.totalSize] at hbyte'
      have hpos := d.size_pos
      omega
    | doomed split' begun place' _ _ mem sat =>
      obtain ⟨rfl, hrest⟩ := Point.eq_of_behind (split'.symm.trans split) (place'.symm.trans place)
      have hblanks : ∀ d ∈ Lexer.portionTail.firsts, d.apart Lexer.blank = true := by decide
      exact absurd hrest.symm (hblank begun (Lexer.not_isBlank_of_apart (hblanks _ mem) sat))

/-- The token that an accepting run ends with is the end of the text. -/
theorem Accepts.exists_does {text : List Glyph} {tokens : List Token} {root : Tree}
    (h : Accepts text tokens root) : ∃ (r : Reading) (before rest : List Glyph) (token : Token),
      text = before ++ rest ∧ r.point = Point.origin.behind before ∧ Frontier text before r ∧
      r.Does rest token (.accepted root) ∧ token.kind = .endOfText := by
  obtain @⟨r, before, rest, token, stack, _, reads, split, place, read, completes, accepts⟩ := h
  obtain ⟨before', rest', split', place', hfrontier⟩ := frontier_of_reaches reads.reaches
  obtain ⟨rfl, rfl⟩ := Point.eq_of_behind (split'.symm.trans split) (place'.symm.trans place)
  refine ⟨r, before', rest', token, split, place, hfrontier,
    ⟨reads.viable, read, (Ends.accepted completes accepts).settles reads.viable⟩, ?_⟩
  cases (reads.viable.completes completes).outcome_of_step accepts with
  | accept _ kind => exact kind

/-- Before a reading came to a place, there was one that went on over the glyph before it. -/
theorem Frontier.goes_on {text before middle : List Glyph} {g : Glyph} {r : Reading}
    (h : Frontier text (before ++ g :: middle) r) : ∃ r' r'' rest, text = before ++ rest ∧
      Frontier text before r' ∧ r'' ∈ r'.nexts (Point.origin.behind before) rest := by
  have hsplit : before ++ g :: middle = (before ++ [g]) ++ middle := by simp
  rw [hsplit] at h
  obtain ⟨r'', hr''⟩ := h.ancestor
  generalize hb : before ++ [g] = b at hr''
  cases hr'' with
  | start => simp at hb
  | next reached split next =>
    obtain ⟨rfl, -⟩ := List.append_inj' hb rfl
    exact ⟨_, _, _, split, reached, next⟩

/-- Accepting runs, of which the one stands no further than the other, find kin trees. -/
theorem Reading.Does.kin {text before middle rest rest' : List Glyph} {x y : Reading} {a b : Token}
    {root root' : Tree} (split : text = before ++ rest) (split' : text = before ++ middle ++ rest')
    (place : x.point = Point.origin.behind before) (hx : Frontier text before x)
    (hy : Frontier text (before ++ middle) y) (does : x.Does rest a (.accepted root))
    (does' : y.Does rest' b (.accepted root')) (kind : a.kind = .endOfText)
    (kind' : b.kind = .endOfText) : Kin root root' := by
  have hover := does.over_iff.1 kind
  cases middle with
  | nil =>
    rw [List.append_nil] at split' hy
    obtain rfl := List.append_cancel_left (split.symm.trans split')
    obtain ⟨point, hcase⟩ := Beside.over (hx.beside hy) hx hy split place hover
    obtain rfl := does.eq_of_over does' point hover
    rcases hcase with twin | astray | astray
    · cases twin.settles does.settles does'.settles with
      | accepted kin => exact kin
    · exact (astray.not_accepts hx.viable hy.viable kind does.settles does'.settles).elim
    · exact (astray.not_accepts hy.viable hx.viable kind does'.settles does.settles).elim
  | cons g middle =>
    obtain ⟨z, z', tail, split'', hz, next⟩ := hy.goes_on
    obtain rfl := List.append_cancel_left (split.symm.trans split'')
    obtain ⟨point, _⟩ := Beside.over (hx.beside hz) hx hz split place hover
    rcases hz.stays_or_does next with ⟨hp, _⟩ | ⟨_, token, goes, _⟩
    · exact absurd (point.symm.trans place) hp
    · exact absurd (goes.over_iff.2 (point ▸ hover)) goes.settles.kind_ne_endOfText

/-- Any two accepting runs have found kin trees. -/
theorem Accepts.kin {text : List Glyph} {tokens tokens' : List Token} {root root' : Tree}
    (h : Accepts text tokens root) (h' : Accepts text tokens' root') : Kin root root' := by
  obtain ⟨x, before, rest, a, split, place, hx, does, kind⟩ := h.exists_does
  obtain ⟨y, before', rest', b, split', place', hy, does', kind'⟩ := h'.exists_does
  rcases List.append_eq_append_iff.1 (split.symm.trans split') with
    ⟨middle, rfl, _⟩ | ⟨middle, rfl, _⟩
  · exact does.kin split split' place hx hy does' kind kind'
  · exact (does'.kin split' split place' hy hx does kind' kind).symm

theorem Recognises.parse_eq {text : List Glyph} {root : Tree} (h : Recognises text root)
    (clean : ¬root.Lone) : parse text = .valid root := by
  obtain ⟨root', hparse⟩ := parse_of_recognises h
  obtain ⟨tokens, haccepts⟩ := exists_accepts h
  obtain ⟨tokens', haccepts'⟩ := exists_accepts (recognises_of_parse hparse)
  rw [hparse, (haccepts'.kin haccepts).eq_of_not_lone (not_lone_of_parse hparse) clean]

/-- The pairs of states that readings in the same place are in. -/
def besidePairs : List (Nat × Nat) := twinPairs ++ (astrayBases ++ astrayPairs)

/-- Whether two states are the same, or those of readings that have taken different ways. -/
def Sided (q q' : Nat) : Prop := q = q' ∨ (q, q') ∈ besidePairs ∨ (q', q) ∈ besidePairs

theorem Sided.symm {q q' : Nat} (h : Sided q q') : Sided q' q :=
  h.imp Eq.symm Or.symm

/-- Of any three states two are the same, as each stands on one side of all its pairs. -/
theorem Sided.two {a b c : Nat} (hab : Sided a b) (hac : Sided a c) (hbc : Sided b c)
    (hne : a ≠ b) : c = a ∨ c = b := by
  rcases hac with rfl | hac
  · exact .inl rfl
  · rcases hbc with rfl | hbc
    · exact .inr rfl
    · have hsides : ∀ {p q : Nat × Nat}, p ∈ besidePairs → q ∈ besidePairs → p.1 ≠ q.2 :=
        fun hp hq => Automaton.pairs_sides _ hp _ hq
      rcases hab.resolve_left hne with hab | hab
      · rcases hbc with hbc | hbc
        · exact absurd rfl (hsides hbc hab)
        · rcases hac with hac | hac
          · exact absurd rfl (hsides hbc hac)
          · exact absurd rfl (hsides hab hac)
      · rcases hac with hac | hac
        · exact absurd rfl (hsides hac hab)
        · rcases hbc with hbc | hbc
          · exact absurd rfl (hsides hac hbc)
          · exact absurd rfl (hsides hab hbc)

/-- Readings that stand beside each other in the same place. -/
theorem Beside.sided {text : List Glyph} {x y : Reading} (h : Beside text x y)
    (hx : Viable x.stack) (hy : Viable y.stack) (byte : x.point.byte = y.point.byte) :
    Sided x.stack.state y.stack.state := by
  rcases h.twin_or_astray byte with twin | astray
  · rcases twin.tops with heq | hpair | hpair
    · exact .inl heq
    · exact .inr (.inl (List.mem_append_left _ hpair))
    · exact .inr (.inr (List.mem_append_left _ hpair))
  · have htops := Astray.tops astray
    rw [hx.top_spine, hy.top_spine, astrayTops] at htops
    rcases List.mem_append.1 htops with hpair | hvalue
    · exact .inr (.inl (List.mem_append_right _ hpair))
    · obtain ⟨q, _, hq⟩ := List.mem_map.1 hvalue
      obtain ⟨hfirst, hsecond⟩ := Prod.mk.inj hq
      exact .inl (hfirst.symm.trans hsecond)

/-- The readings in a place of a text. -/
theorem Reaches.sided {text : List Glyph} {x y : Reading} (hx : Reaches text x)
    (hy : Reaches text y) (byte : x.point.byte = y.point.byte) :
    Sided x.stack.state y.stack.state := by
  obtain ⟨before, rest, split, place, hfrontier⟩ := frontier_of_reaches hx
  obtain ⟨before', rest', split', place', hfrontier'⟩ := frontier_of_reaches hy
  have hsize := byte
  rw [place, place', Point.origin_behind_byte, Point.origin_behind_byte] at hsize
  obtain ⟨rfl, rfl⟩ := Glyph.eq_of_totalSize (split.symm.trans split') hsize
  rcases hfrontier.beside hfrontier' with h | h
  · exact h.sided hfrontier.viable hfrontier'.viable byte
  · exact (h.sided hfrontier'.viable hfrontier.viable byte.symm).symm

/-- A text whose runs differ in nothing but the ways they take out of the conflict. -/
structure OnlyConflict (text : List Glyph) : Prop where
  /-- The text is a program if and only if some run accepts it. -/
  valid_iff : (∃ root, Program.ofGlyphs text = .valid root) ↔ ∃ tokens root, Accepts text tokens root
  /-- The runs that have read a token up to a place are in one of two states. -/
  states : ∀ place, ∃ q q', ∀ r, Reaches text r → r.point.byte = place →
    r.stack.state = q ∨ r.stack.state = q'
  /-- The runs that accept have read the same tokens and found kin trees. -/
  kin : ∀ tokens tokens' root root', Accepts text tokens root → Accepts text tokens' root' →
    tokens = tokens' ∧ Kin root root'

/-- The conflict is the only ambiguity of any text, however deeply the braces are nested. -/
theorem onlyConflict_ofBytes (bytes : List UInt8) : OnlyConflict (Glyph.ofBytes bytes) where
  valid_iff := by
    constructor
    · rintro ⟨root, hvalid⟩
      obtain ⟨tree, hparse, _⟩ := Program.ofGlyphs_eq_valid.1 hvalid
      obtain ⟨tokens, haccepts⟩ := exists_accepts (recognises_of_parse hparse)
      exact ⟨tokens, tree, haccepts⟩
    · rintro ⟨tokens, tree, haccepts⟩
      obtain ⟨tree', hparse⟩ := parse_of_recognises haccepts.recognises
      exact ⟨_, Program.ofGlyphs_eq_valid.2 ⟨tree', hparse, rfl⟩⟩
  states place := by
    by_cases hsame : ∃ q, ∀ r, Reaches (Glyph.ofBytes bytes) r → r.point.byte = place →
        r.stack.state = q
    · obtain ⟨q, hq⟩ := hsame
      exact ⟨q, q, fun r hr hplace => .inl (hq r hr hplace)⟩
    · push Not at hsame
      obtain ⟨x, hx, hxplace, _⟩ := hsame 0
      obtain ⟨y, hy, hyplace, hne⟩ := hsame x.stack.state
      refine ⟨x.stack.state, y.stack.state, fun r hr hplace => ?_⟩
      exact Sided.two (hx.sided hy (hxplace.trans hyplace.symm))
        (hx.sided hr (hxplace.trans hplace.symm)) (hy.sided hr (hyplace.trans hplace.symm))
        hne.symm
  kin tokens tokens' root root' h h' := by
    have hkin := h.kin h'
    exact ⟨by rw [← h.tokens_eq, ← h'.tokens_eq, hkin.tokens_eq], hkin⟩

end Numscript.Parser
