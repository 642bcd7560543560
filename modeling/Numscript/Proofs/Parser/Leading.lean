import Numscript.Proofs.Parser.Lonely
import Numscript.Proofs.Parser.Merge
import Numscript.Proofs.Parser.Precedes

/-!
# The reading that leads

While a single clause in braces is open, the reading that fills in order leads the one by shares: on the
token that the latter goes on with it goes on as well, as long as that token does not begin another clause.
-/
namespace Numscript.Parser

open Automaton (Crossing crossings conflictPairs shutPairs leads? goto? reduction? findsToo)

/-- The first reading precedes the second one above a lower part. -/
structure Leads (lower : List Nat) (s r : Reading) : Prop where
  point : s.point = r.point
  precedes : Precedes lower s.stack.spine r.stack.spine ∨
    PrecedesShut lower s.stack.spine r.stack.spine

variable {lower : List Nat} {s r : Reading} {w : Token} {text : List Glyph} {token : Token}

theorem Precedes.exists_upper {s t : List Nat} (h : Precedes lower s t) :
    ∃ upper, t = upper ++ 518 :: lower := by
  induction h with
  | base h =>
    obtain ⟨_, _, _, _, rfl⟩ := h
    exact ⟨[], rfl⟩
  | read _ _ _ _ ih =>
    obtain ⟨upper, rfl⟩ := ih
    exact ⟨_ :: upper, rfl⟩

theorem not_snoc_two {a b : Nat} {upper : List Nat} (h : a :: b :: lower = upper ++ 518 :: lower) :
    b = 518 := by
  have hlength := congrArg List.length h
  simp only [List.length_cons, List.length_append] at hlength
  rcases upper with _ | ⟨c, _ | ⟨d, upper⟩⟩
  · simp at hlength
  · exact (List.cons.inj (List.cons.inj h).2).1
  · simp at hlength
    omega

/-- Where the share lies in the second reading, the braces are still open. -/
theorem Leads.open (h : Leads lower s r) (hv : Viable r.stack)
    (hl : Lies (Braces.share w) lower r.stack) :
    Precedes lower s.stack.spine r.stack.spine := by
  refine h.precedes.resolve_right ?_
  rintro ⟨x, mem, opens', _, hspine⟩
  obtain ⟨upper, hupper⟩ := hl.spine_share mem opens' hv
  exact (crossings_begin x mem).2.1 (not_snoc_two (hspine.symm.trans hupper))

theorem Leads.shut (h : Leads lower s r) (hv : Viable r.stack) (hs : Shut w lower r.stack)
    (opens : Opens lower) : PrecedesShut lower s.stack.spine r.stack.spine := by
  refine h.precedes.resolve_left fun hprecedes => ?_
  obtain ⟨x, mem, opens⟩ := opens
  obtain ⟨n, hspine⟩ := hs.spine mem opens hv
  obtain ⟨upper, hupper⟩ := hprecedes.exists_upper
  exact (crossings_begin x mem).2.1 (not_snoc_two (hspine.symm.trans hupper))

/-- A reading that leads another one meets the token that the latter goes on with. -/
theorem Reading.Does.found_by {e : Ending} (hr : r.Does text token e) (hs : Viable s.stack)
    (point : s.point = r.point) (more : token.kind ≠ .endOfText)
    (told : top s.stack.spine = top r.stack.spine ∨
      findsToo (top s.stack.spine, top r.stack.spine) token.kind = true) :
    s.token? text = some token := by
  rw [hs.top_spine, hr.viable.top_spine] at told
  rcases told with state | told
  · rw [Reading.token?_congr point state, hr.read]
  · obtain ⟨mode, hmode, hismode, hfinds⟩ := hr.finds
    obtain ⟨mode', hmode', hismode'⟩ := hs.isMode
    rw [findsToo, hmode, hmode'] at told
    simp only [Bool.and_eq_true, List.all_eq_true, Bool.or_eq_true, List.contains_iff_mem] at told
    rw [← point] at hfinds
    exact Reading.token?_of_finds hmode' hismode' (hfinds.also more told.1 told.2)

/-- Before a comment, a reading that leads another one reads it as well. -/
theorem Leads.comment {t : Stack} (h : Leads lower s r) (hs : Viable s.stack)
    (does : r.Does text token (.pushed t)) (comment : token.kind.isComment = true) :
    ∃ t', s.Does text token (.pushed t') ∧ Leads lower ⟨t', token.stop⟩ ⟨t, token.stop⟩ := by
  have more : token.kind ≠ .endOfText := does.settles.kind_ne_endOfText
  have told : top s.stack.spine = top r.stack.spine ∨
      findsToo (top s.stack.spine, top r.stack.spine) token.kind = true := by
    have hstart : token.kind ∉ Automaton.starters := by
      have hall : ∀ k ∈ Automaton.starters, k.isComment = false := by decide
      intro hk
      simp [hall _ hk] at comment
    rcases h.precedes with hprecedes | hshut
    · rcases Precedes.tops hprecedes with hpair | heq
      · rcases (Automaton.keepsUp_conflictPairs _ hpair _ does.mem_actions).2 with
          ⟨hfinds, _⟩ | ⟨hk, _⟩
        · exact .inr hfinds
        · exact absurd hk hstart
      · exact .inl heq
    · exact .inr (hshut.findsToo does.mem_actions).2
  refine ⟨_, ⟨hs, does.found_by hs h.point more told, .pass comment⟩, rfl, ?_⟩
  have hleaf : (Tree.leaf token).isComment = true := comment
  change Precedes lower (Stack.spine (_ :: s.stack)) t.spine ∨
    PrecedesShut lower (Stack.spine (_ :: s.stack)) t.spine
  rw [does.settles.spine_of_comment comment, Stack.spine_comment hleaf]
  exact h.precedes

/-- Before any other token as well, as long as that one does not leave the clause. -/
theorem Leads.goes_on {t : Stack} (h : Leads lower s r) (hs : Viable s.stack) (opens : Opens lower)
    (hl : Lies (Braces.share w) lower r.stack) (does : r.Does text token (.pushed t))
    (plain : token.kind.isComment = false) (ht : Viable t) (holds : Holds w lower t) :
    ∃ t', s.Does text token (.pushed t') ∧ Leads lower ⟨t', token.stop⟩ ⟨t, token.stop⟩ := by
  have htakes := does.settles.takes does.viable plain
  rcases (h.open does.viable hl).takes plain htakes with
    ⟨told, u, hu, hprecedes⟩ | ⟨starts, x, mem, n, hn, hleft⟩
  · obtain ⟨t', hsettles, rfl⟩ := hu.settles hs plain
    have hread := does.found_by hs h.point does.settles.kind_ne_endOfText told
    exact ⟨t', ⟨hs, hread, hsettles⟩, rfl, hprecedes⟩
  · obtain ⟨y, mem', opens⟩ := opens
    rcases holds with hl | hshut
    · obtain ⟨upper, hupper⟩ := hl.spine_share mem' opens ht
      exact absurd (not_snoc_two (hleft.symm.trans hupper)) (crossings_begin x mem).2.1
    · obtain ⟨m, brace, rest, _, _, hbare, closes, _⟩ := hshut
      obtain ⟨m', t, rfl⟩ := does.settles.exists_leaf
      rw [Stack.bare_cons, if_neg (by simp [Tree.isComment, plain])] at hbare
      obtain ⟨hframe, _⟩ := List.cons.inj hbare
      obtain ⟨_, hleaf⟩ := Frame.mk.inj hframe
      obtain rfl := Tree.leaf.inj hleaf
      have hbrace : Terminal.rbrace ∉ Automaton.starters := by decide
      exact absurd (closes ▸ starts) hbrace

/-- Behind the word, the reading by shares goes on with a token that the state of the word pushes. -/
theorem Stands.forks {t : Stack} (h : Stands (.leaf w) lower r.stack) (kind : w.kind = .kwRemaining)
    (opens : Opens lower) (does : r.Does text token (.pushed t))
    (plain : token.kind.isComment = false) (ht : Viable t) (holds : Holds w lower t) :
    ∃ n, leads? r.stack.state (.terminal token.kind) = some n ∧
      Precedes lower (n :: r.stack.spine) t.spine := by
  obtain ⟨x, mem, opens⟩ := opens
  obtain ⟨q, hspine, leads⟩ := h.spine does.viable (isComment_leaf kind rfl)
  obtain ⟨hword, hclauses, hne, hapart⟩ := crossings_begin x mem
  rw [Tree.symbol, kind, opens, hword] at leads
  obtain rfl := Option.some.inj leads
  have htakes := does.settles.takes does.viable plain
  rw [← does.viable.top_spine]
  rw [hspine] at htakes ⊢
  generalize hu : t.spine = u at htakes
  cases htakes with
  | shift =>
    rcases holds with hl | hshut
    · obtain ⟨upper, hupper⟩ := hl.spine_share mem opens ht
      exact absurd (not_snoc_two (hu.symm.trans hupper)) hne
    · obtain ⟨m, hm⟩ := hshut.spine mem opens ht
      exact absurd (List.cons.inj (List.cons.inj (hm.symm.trans hu)).2).1 (hapart x mem)
  | reduce asks goto rest =>
    obtain ⟨_, _, hamount, hshare, _, _, _, _, _, hreduction⟩ := Automaton.crossings_do x mem
    obtain ⟨honly, _, _, hnone⟩ := Automaton.clauses_do
    obtain rfl := hreduction _ (Terminal.mem_all _) _ asks
    change goto? (top lower) .remainingAllotment = some _ at goto
    rw [opens, hamount] at goto
    obtain rfl := Option.some.inj goto
    obtain ⟨_, n, hn, hrest⟩ := Takes.only (s := 558 :: lower) rest honly
    change goto? (top lower) .allotment = some n at hn
    rw [opens, hshare] at hn
    obtain rfl := Option.some.inj hn
    obtain ⟨m, hm, rfl⟩ := Takes.shifts (s := 518 :: lower) hrest (hnone _ (Terminal.mem_all _))
    have hspecial : ∀ x ∈ crossings, (x.word, 518) ∉ [(677, 398), (678, 398)] := by decide
    have hends : ¬(518 ∈ Automaton.sharingEnds ∨ 518 = 398) := by decide
    obtain ⟨_, ⟨_, hkeeps | ⟨hpair, _⟩⟩ | ⟨_, hshares⟩⟩ :=
      Automaton.keepsUp_conflictPairs (x.word, 518) (List.mem_append_left _ (crossings_seams x mem).1)
        _ (mem_actions (acts_of_isSome (.inl (Option.isSome_iff_exists.2 ⟨m, hm⟩))))
    · rcases keepsUp_spec plain hkeeps with ⟨⟨q, hq⟩, _⟩ | ⟨hnone', _⟩
      · exact ⟨q, hq, .read (.base ⟨x, mem, opens, rfl, rfl⟩) hq hm trivial⟩
      · exact absurd (hm.symm.trans hnone') (by simp)
    · exact absurd hpair (hspecial x mem)
    · exact absurd hshares hends

end Numscript.Parser
