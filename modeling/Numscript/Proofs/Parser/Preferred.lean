import Numscript.Proofs.Parser.Leading
import Numscript.Proofs.Parser.Order

/-!
# The preferred reading

A front lists the reading that fills in order before the one by shares, as long as both are alive. Both
come to the same states behind the closing brace, and there the earlier one is kept. So the tree that a text
is parsed to never holds an allotment of a single remaining clause.
-/
namespace Numscript.Parser

open Automaton (crossings shutPairs leads?)

/-- Before each reading that holds a single clause by shares there stands one that leads it. -/
def Preferred (readings : List Reading) : Prop :=
  ∀ earlier r later w lower, readings = earlier ++ r :: later → w.kind = .kwRemaining →
    Opens lower → Holds w lower r.stack → ∃ s ∈ earlier, Leads lower s r

variable {lower : List Nat} {s r : Reading} {w : Token} {text before rest : List Glyph} {token : Token}

theorem Frontier.topped (h : Frontier text before r) : Topped r.stack := by
  induction h with
  | start => exact nofun
  | @next before rest g r r' reached split next ih =>
    by_cases hp : r.point = Point.origin.behind before
    · rw [← hp] at next
      obtain ⟨token, does, _⟩ := does_of_mem_nexts reached.viable next
      exact does.settles.topped ih
    · rw [nexts_of_ne hp] at next
      obtain rfl := List.mem_singleton.1 next
      exact ih

theorem Reading.Does.mem_nexts {t : Stack} (h : r.Does text token (.pushed t)) :
    ⟨t, token.stop⟩ ∈ r.nexts r.point text := by
  refine (mem_nexts_iff h.viable).2 ⟨token, h.read, ?_, rfl⟩
  cases h.settles.ends h.viable with
  | pushed pushes => exact pushes

theorem spine_of_outline {s t : Stack} (h : s.outline = t.outline) : s.spine = t.spine := by
  have hspine : ∀ s : Stack, s.spine = (s.outline.filter fun q => !q.2).map (·.1) := by
    intro s
    simp [Stack.spine, Stack.plain, Stack.outline, List.filter_map, Function.comp_def]
  rw [hspine, hspine, h]

theorem Leads.of_rivals {x : Reading} (h : Leads lower s r) (rival : x.rivals s = true) :
    Leads lower x r := by
  obtain ⟨point, outline⟩ := Reading.rivals_iff.1 rival
  exact ⟨point.trans h.point, by rw [spine_of_outline outline]; exact h.precedes⟩

theorem Precedes.of_append {a s t : List Nat} (h : Precedes lower (a ++ s) (a ++ t)) :
    Precedes lower s t := by
  induction a with
  | nil => exact h
  | cons q a ih =>
    generalize hs : q :: a ++ s = s' at h
    generalize ht : q :: a ++ t = t' at h
    cases h with
    | base h =>
      obtain ⟨x, mem, _, rfl, rfl⟩ := h
      obtain ⟨rfl, _⟩ := List.cons.inj hs
      exact absurd (List.cons.inj ht).1 (crossings_begin x mem).2.2.1
    | read below =>
      obtain ⟨rfl, rfl⟩ := List.cons.inj hs
      obtain ⟨rfl, rfl⟩ := List.cons.inj ht
      exact ih below

theorem Precedes.ne {s t : List Nat} (h : Precedes lower s t) : s ≠ t := by
  induction h with
  | base h =>
    obtain ⟨x, mem, _, rfl, rfl⟩ := h
    exact fun heq => (crossings_begin x mem).2.2.1 (List.cons.inj heq).1
  | read _ _ _ _ ih => exact fun heq => ih (List.cons.inj heq).2

/-- Stacks that precede one another do so below the same upper part. -/
theorem Precedes.over {upper s t : Stack} (h : Precedes lower s.spine t.spine)
    (hs : Viable (upper ++ s)) (ht : Viable (upper ++ t)) :
    Precedes lower (Stack.spine (upper ++ s)) (Stack.spine (upper ++ t)) := by
  induction upper with
  | nil => exact h
  | cons f upper ih =>
    rw [List.cons_append] at hs ht ⊢
    rw [List.cons_append]
    have hbelow := ih hs.tail ht.tail
    by_cases hf : f.tree.isComment = true
    · rw [Stack.spine_comment hf, Stack.spine_comment hf]
      exact hbelow
    · have plain : f.tree.isComment = false := by simpa using hf
      have leads := hs.leads_of_cons plain
      have leads' := ht.leads_of_cons plain
      rw [← hs.tail.top_spine] at leads
      rw [← ht.tail.top_spine] at leads'
      rw [Stack.spine_cons plain, Stack.spine_cons plain]
      exact .read hbelow leads leads' trivial

/-- Where the state of a reading pushes the token, that is the first thing that the reading becomes. -/
theorem Viable.nexts_of_leads {n : Nat} (hv : Viable r.stack) (read : r.token? text = some token)
    (leads : leads? r.stack.state (.terminal token.kind) = some n)
    (plain : token.kind.isComment = false) :
    ∃ more, r.nexts r.point text = ⟨⟨n, .leaf token⟩ :: r.stack, token.stop⟩ :: more := by
  rw [Reading.token?, Stack.top?_ground, Option.bind_some] at read
  rw [Reading.nexts, Reading.endings, if_pos rfl, advanceStack, Stack.top?_ground]
  simp only [read]
  obtain ⟨fuel, hfuel⟩ := Nat.exists_eq_succ_of_ne_zero
    (Nat.ne_of_gt (Nat.lt_of_lt_of_le r.stack.potential_pos r.stack.potential_le))
  rw [hfuel, settle]
  rcases hv.step_of_leads leads plain with hs | ⟨kept, hs⟩
  · exact ⟨[], by rw [hs]; rfl⟩
  · exact ⟨_, by rw [hs]; rfl⟩

/-- A front in the midst of a sweep, with the reading that leads before each that holds a single clause. -/
structure Stage (text before rest : List Glyph) (below : Option Nat) (spine : List Junction)
    (readings : List Reading) : Prop where
  sound : ∀ x ∈ wholes spine readings, Frontier text before x
  level : Level below (Point.origin.behind before) rest spine readings
  known : below = none ∨ spine = []
  preferred : Preferred (wholes spine readings)
  clean : ∀ x ∈ wholes spine readings, Clean x.stack

/-- The readings that come of an earlier one, over the lower part of that one. -/
def Listed (p : Point) (rest : List Glyph) (earlier : List Reading) (e : Reading) (t' : Stack)
    (s : Reading) : Prop :=
  ∀ x ∈ s.nexts p rest, ∃ y : Reading, x = y.over t' ∧ y.rivals e = false ∧
    ∃ z ∈ earlier, z.rivals x = true

/-- How a reading that is kept came about: its upper part `e` comes of the upper part `u` of one in a front. -/
structure Kept (text before rest : List Glyph) (spine : List Junction) (earlier : List Reading)
    (u e : Reading) (t : Stack) : Prop where
  mem : t ∈ tails spine
  reads : ∀ t' ∈ tails spine, Frontier text before (u.over t')
  becomes : ∀ t' ∈ tails spine,
    e.over t' ∈ (u.over t').nexts (Point.origin.behind before) rest
  stays : u.point ≠ Point.origin.behind before → e = u
  known : u.point = Point.origin.behind before → u.stack ≠ [] ∨ spine = []
  clean : Clean (u.over t).stack
  /-- The first that the reading becomes is kept, or a rival of it is. -/
  first : ∀ x more, (u.over t).nexts (Point.origin.behind before) rest = x :: more →
    x = e.over t ∨ ∃ z ∈ earlier, z.rivals x = true
  /-- What led the reading stands in another upper part, or in the same one over another lower part. -/
  leader : ∀ w lower, w.kind = .kwRemaining → Opens lower → Holds w lower (u.over t).stack →
    ∃ s, Leads lower s (u.over t) ∧ Frontier text before s ∧ ∃ t' ∈ tails spine,
      Listed (Point.origin.behind before) rest earlier e t' s ∨
        s = u.over t' ∧ e.over t' ∈ earlier ∧ spine ≠ []

theorem endings_of_ne {below : Option Nat} {p : Point} {u : Reading} (h : u.point ≠ p) :
    alive (u.endings below p text) = [u] := by
  rw [Reading.endings, if_neg h]
  rfl

theorem ne_nil_of_endings {p : Point} {u e : Reading} (hp : u.point = p)
    (h : e ∈ alive (u.endings none p text)) : u.stack ≠ [] := by
  intro hnil
  rw [Reading.endings, if_pos hp, hnil] at h
  cases h

/-- Where a reading that is kept in a front comes from. -/
theorem Stage.kept {below : Option Nat} {spine : List Junction}
    {readings earlier later : List Reading} {r' : Reading}
    (h : Stage text before rest below spine readings)
    (split : wholes spine (dropRivals (alive (endingsAt below (Point.origin.behind before) rest
      readings))) = earlier ++ r' :: later) :
    ∃ u e t, r' = e.over t ∧ Kept text before rest spine earlier u e t := by
  obtain ⟨l₁, u, l₂, t₁, t, t₂, b₁, e, b₂, rfl, htails, he, rfl, hsame, hbefore⟩ :=
    exists_origin split
  have hu : u ∈ l₁ ++ u :: l₂ := by simp
  have ht : t ∈ tails spine := by simp [htails]
  refine ⟨u, e, t, rfl, ht, fun t' ht' => h.sound _ (mem_wholes.2 ⟨u, hu, t', ht', rfl⟩),
    fun t' ht' => ?_, fun hp => ?_, fun hp => ?_, h.clean _ (mem_wholes.2 ⟨u, hu, t, ht, rfl⟩),
    fun x more hfirst => ?_, fun w lower kind opens holds => ?_⟩
  · rw [h.level.nexts_eq hu ht', he]
    simp
  · rw [endings_of_ne hp] at he
    obtain ⟨_, hsingle⟩ | ⟨_, hempty⟩ := List.append_eq_singleton_iff.1 he.symm
    · exact (List.cons.inj hsingle).1
    · cases hempty
  · have hmem : e ∈ alive (u.endings below (Point.origin.behind before) rest) := by
      rw [he]
      simp
    exact h.known.imp_left fun hnone => ne_nil_of_endings hp (hnone ▸ hmem)
  · rw [h.level.nexts_eq hu ht, he] at hfirst
    cases b₁ with
    | nil => exact .inl (List.cons.inj hfirst).1.symm
    | cons y b₁ =>
      rw [← (List.cons.inj hfirst).1]
      exact .inr ((hbefore y (.inl List.mem_cons_self)).2 t ht)
  · obtain ⟨s, hs, hleads⟩ :=
      h.preferred _ _ _ w lower (wholes_append_cons htails) kind opens holds
    refine ⟨s, hleads, ?_⟩
    rcases List.mem_append.1 hs with hs | hs
    · obtain ⟨v, hv, t', ht', rfl⟩ := mem_wholes.1 hs
      have hv' : v ∈ l₁ ++ u :: l₂ := List.mem_append_left _ hv
      refine ⟨h.sound _ (mem_wholes.2 ⟨v, hv', t', ht', rfl⟩), t', ht', .inl fun x hx => ?_⟩
      rw [h.level.nexts_eq hv' ht'] at hx
      obtain ⟨y, hy, rfl⟩ := List.mem_map.1 hx
      obtain ⟨hrival, hcover⟩ := hbefore y (.inr ⟨v, hv, hy⟩)
      exact ⟨y, rfl, hrival, hcover t' ht'⟩
    · obtain ⟨t', ht', rfl⟩ := List.mem_map.1 hs
      have hmem : t' ∈ tails spine := by simp [htails, ht']
      refine ⟨h.sound _ (mem_wholes.2 ⟨u, hu, t', hmem, rfl⟩), t', hmem,
        .inr ⟨rfl, hsame t' ht', ?_⟩⟩
      rintro rfl
      obtain ⟨rfl, _⟩ | ⟨_, hempty⟩ := List.append_eq_singleton_iff.1 htails.symm
      · cases ht'
      · cases hempty

namespace Kept

variable {spine : List Junction} {earlier : List Reading} {u e : Reading} {t t' : Stack} {g : Glyph}

/-- What a reading that is kept does, where it stands at the place. -/
theorem does (h : Kept text before rest spine earlier u e t)
    (point : u.point = Point.origin.behind before) :
    ∃ token, (u.over t).Does rest token (.pushed (e.over t).stack) ∧ e.point = token.stop := by
  have hnext := h.becomes t h.mem
  rw [← point] at hnext
  exact does_of_mem_nexts (h.reads t h.mem).viable hnext

theorem frontier (h : Kept text before (g :: rest) spine earlier u e t)
    (split : text = before ++ g :: rest) (mem : t' ∈ tails spine) :
    Frontier text (before ++ [g]) (e.over t') :=
  .next (h.reads t' mem) split (h.becomes t' mem)

/-- What a leader with an earlier upper part becomes stands before the reading that is kept. -/
theorem leads_of_listed {t'' : Stack}
    (hlisted : Listed (Point.origin.behind before) rest earlier e t' s)
    (point : s.point = Point.origin.behind before) (stop : e.point = token.stop)
    (does : s.Does rest token (.pushed t''))
    (hleads : Leads lower ⟨t'', token.stop⟩ ⟨(e.over t).stack, token.stop⟩) :
    ∃ z ∈ earlier, Leads lower z (e.over t) := by
  have hmem := does.mem_nexts
  rw [point] at hmem
  obtain ⟨y, _, _, z, hz, hrival⟩ := hlisted _ hmem
  rw [← stop] at hleads hrival
  exact ⟨z, hz, hleads.of_rivals hrival⟩

/-- A comment on the upper part changes nothing in what leads. -/
theorem leads_of_comment (hleads : Leads lower (u.over t') (u.over t))
    (comment : (e.over t).stack.spine = (u.over t).stack.spine) :
    Leads lower (e.over t') (e.over t) := by
  have hupper : Stack.spine (e.stack ++ t) = Stack.spine (u.stack ++ t) := comment
  rw [Stack.spine_append, Stack.spine_append] at hupper
  have hover : (e.over t').stack.spine = (u.over t').stack.spine := by
    change Stack.spine (e.stack ++ t') = Stack.spine (u.stack ++ t')
    rw [Stack.spine_append, Stack.spine_append, List.append_cancel_right hupper]
  exact ⟨rfl, by rw [hover, comment]; exact hleads.precedes⟩

/-- Whatever becomes of the upper part, the lower parts precede one another. -/
theorem leads_of_precedes (hprecedes : Precedes lower (u.over t').stack.spine (u.over t).stack.spine)
    (first : Viable (e.over t').stack) (second : Viable (e.over t).stack) :
    Leads lower (e.over t') (e.over t) := by
  change Precedes lower (Stack.spine (u.stack ++ t')) (Stack.spine (u.stack ++ t)) at hprecedes
  rw [Stack.spine_append, Stack.spine_append] at hprecedes
  exact ⟨rfl, .inl (hprecedes.of_append.over first second)⟩

/-- Before a reading that is kept and holds a single clause there stands one that leads it. -/
theorem holds (h : Kept text before (g :: rest) spine earlier u e t)
    (split : text = before ++ g :: rest) (kind : w.kind = .kwRemaining) (opens : Opens lower)
    (holds : Holds w lower (e.over t).stack) : ∃ z ∈ earlier, Leads lower z (e.over t) := by
  have hviable := (h.reads t h.mem).viable
  by_cases hp : u.point = Point.origin.behind before
  · obtain ⟨token, does, stop⟩ := h.does hp
    have hnext := (h.frontier split h.mem).viable
    rcases does.settles.holds (h.reads t h.mem).topped holds with
      ⟨comment, hholds⟩ | ⟨plain, hlies | hstands⟩
    · obtain ⟨s, hleads, hs, t', ht', hlisted | ⟨rfl, hmem, _⟩⟩ :=
        h.leader w lower kind opens hholds
      · obtain ⟨t'', does', hleads'⟩ := hleads.comment hs.viable does comment
        exact leads_of_listed hlisted (hleads.point.trans hp) stop does' hleads'
      · exact ⟨_, hmem, leads_of_comment hleads (does.settles.spine_of_comment comment)⟩
    · obtain ⟨s, hleads, hs, t', ht', hlisted | ⟨rfl, hmem, _⟩⟩ :=
        h.leader w lower kind opens (.inl hlies)
      · obtain ⟨t'', does', hleads'⟩ :=
          hleads.goes_on hs.viable opens hlies does plain hnext holds
        exact leads_of_listed hlisted (hleads.point.trans hp) stop does' hleads'
      · exact ⟨_, hmem, leads_of_precedes (hleads.open hviable hlies)
          (h.frontier split ht').viable hnext⟩
    · obtain ⟨n, leads, hprecedes⟩ := hstands.forks kind opens does plain hnext holds
      obtain ⟨more, hfirst⟩ := hviable.nexts_of_leads does.read leads plain
      rw [show (u.over t).point = Point.origin.behind before from hp] at hfirst
      have hspine : Stack.spine (⟨n, .leaf token⟩ :: (u.over t).stack) =
          n :: (u.over t).stack.spine := Stack.spine_cons (isComment_leaf rfl plain) _
      rcases h.first _ more hfirst with heq | ⟨z, hz, hrival⟩
      · rw [← heq, hspine] at hprecedes
        exact absurd rfl hprecedes.ne
      · refine ⟨z, hz, Leads.of_rivals ⟨stop.symm, .inl ?_⟩ hrival⟩
        rw [hspine]
        exact hprecedes
  · obtain rfl := h.stays hp
    obtain ⟨s, hleads, _, t', _, hlisted | ⟨rfl, hmem, _⟩⟩ := h.leader w lower kind opens holds
    · have hstay : s.point ≠ Point.origin.behind before := by
        rw [hleads.point]
        exact hp
      obtain ⟨_, _, _, z, hz, hrival⟩ := hlisted s (by simp [nexts_of_ne hstay])
      exact ⟨z, hz, hleads.of_rivals hrival⟩
    · exact ⟨_, hmem, hleads⟩

theorem shutPairs_apart : ∀ p ∈ shutPairs, p.1 ≠ p.2 ∧
    ∀ q ∈ Automaton.astrayTops, q.1 ≠ p.2 ∧ q.2 ≠ p.2 := by
  decide +kernel

/-- Lower parts below the same upper part that is shut are of one height. -/
theorem length_eq (h : Kept text before rest spine earlier u e t)
    (hp : u.point = Point.origin.behind before) (mem : t' ∈ tails spine) {q : Nat}
    (shut : (q, (u.over t).stack.state) ∈ shutPairs) : t'.length = t.length := by
  rcases h.known hp with hne | rfl
  · have hstate : (u.over t').stack.state = (u.over t).stack.state := by
      obtain ⟨f, upper, hupper⟩ := List.exists_cons_of_ne_nil hne
      change Stack.state (u.stack ++ t') = Stack.state (u.stack ++ t)
      rw [hupper]
      rfl
    have hfirst := (h.reads t' mem)
    have hsecond := (h.reads t h.mem)
    obtain ⟨_, hastray⟩ := shutPairs_apart _ shut
    rcases hfirst.twin_or_astray hsecond rfl with twin | astray | astray
    · have hsame : ∀ q, (q, q) ∉ shutPairs := fun q hq => (shutPairs_apart _ hq).1 rfl
      have hlength := twin.length_eq (by rw [hstate]; exact hsame _) (by rw [hstate]; exact hsame _)
      simpa [Reading.over] using hlength
    · have htops := Astray.tops astray
      rw [hfirst.viable.top_spine, hsecond.viable.top_spine] at htops
      exact absurd rfl (hastray _ htops).2
    · have htops := Astray.tops astray
      rw [hfirst.viable.top_spine, hsecond.viable.top_spine] at htops
      exact absurd rfl (hastray _ htops).1
  · rw [List.mem_singleton.1 mem, List.mem_singleton.1 h.mem]

/-- No reading that is kept comes of one behind the closing brace, as it has a rival before it. -/
theorem not_shut (h : Kept text before (g :: rest) spine earlier u e t)
    (split : text = before ++ g :: rest) (hp : u.point = Point.origin.behind before)
    (does : (u.over t).Does (g :: rest) token (.pushed (e.over t).stack))
    (stop : e.point = token.stop) (plain : token.kind.isComment = false)
    (kind : w.kind = .kwRemaining) (opens : Opens lower) : ¬Shut w lower (u.over t).stack := by
  intro hshut
  have hviable := (h.reads t h.mem).viable
  obtain ⟨s, hleads, hs, t', ht', hbefore⟩ := h.leader w lower kind opens (.inr hshut)
  have hprecedes := hleads.shut hviable hshut opens
  have hpair := hprecedes.tops
  rw [hs.viable.top_spine, hviable.top_spine] at hpair
  rcases hbefore with hlisted | ⟨rfl, _, hspine⟩
  · obtain ⟨t'', hsettles, hspine⟩ :=
      (hprecedes.takes hviable (does.settles.takes hviable plain) plain).settles hs.viable plain
    have does' : s.Does (g :: rest) token (.pushed t'') :=
      ⟨hs.viable, does.found_by hs.viable hleads.point does.settles.kind_ne_endOfText
        (.inr (hprecedes.findsToo does.mem_actions).2), hsettles⟩
    have hmem := does'.mem_nexts
    rw [show s.point = Point.origin.behind before from hleads.point.trans hp] at hmem
    have hfrontier := hs.next split hmem
    obtain ⟨y, hy, hrival, _⟩ := hlisted _ hmem
    have houtline : (y.over t').stack.outline = (e.over t).stack.outline := by
      rw [← hy]
      exact hfrontier.outline_eq (h.frontier split h.mem) stop.symm hspine
    have hlength := h.length_eq hp ht' hpair
    have hupper : y.stack.outline = e.stack.outline := by
      simp only [Reading.over, Stack.outline, List.map_append] at houtline
      exact List.append_inj_left' houtline (by simpa using hlength)
    have hpoint : y.point = e.point := by
      rw [stop]
      exact (congrArg Reading.point hy).symm
    rw [Reading.rivals_iff.2 ⟨hpoint, hupper⟩] at hrival
    cases hrival
  · obtain ⟨f, upper, hupper⟩ := List.exists_cons_of_ne_nil ((h.known hp).resolve_right hspine)
    refine (shutPairs_apart _ hpair).1 ?_
    change Stack.state (u.stack ++ t') = Stack.state (u.stack ++ t)
    rw [hupper]
    rfl

theorem clean_next (h : Kept text before (g :: rest) spine earlier u e t)
    (split : text = before ++ g :: rest) : Clean (e.over t).stack := by
  by_cases hp : u.point = Point.origin.behind before
  · obtain ⟨token, does, stop⟩ := h.does hp
    rcases does.settles.clean_or_shut does.viable h.clean with
      ⟨plain, w, lower, kind, opens, hshut⟩ | hclean
    · exact absurd hshut (h.not_shut split hp does stop plain kind opens)
    · exact hclean.1 _ rfl
  · obtain rfl := h.stays hp
    exact h.clean

end Kept

/-- A front whose readings are clean, with one that leads before each that holds a single clause. -/
structure Front.Tidy (front : Front) : Prop where
  preferred : Preferred front.wholes
  clean : ∀ x ∈ front.wholes, Clean x.stack

theorem Front.initial_tidy : Front.initial.Tidy := by
  have hwholes : Front.initial.wholes = [⟨[], .origin⟩] := by simp [Front.wholes, Front.initial]
  refine ⟨?_, ?_⟩
  · intro earlier r later w lower hsplit _ _ holds
    have hr : r ∈ Front.initial.wholes := by simp [hsplit]
    rw [hwholes] at hr
    obtain rfl := List.mem_singleton.1 hr
    rcases holds with ⟨upper, _, _, hnil, _⟩ | ⟨_, _, _, _, _, hnil, _⟩
    · simp at hnil
    · cases hnil
  · intro x hx
    rw [hwholes] at hx
    obtain rfl := List.mem_singleton.1 hx
    exact List.forall_mem_nil _

/-- One token more, and the front is still tidy. -/
theorem Front.Tidy.advance {g : Glyph} {front next : Front} (tidy : front.Tidy)
    (sound : front.Sound text before) (split : text = before ++ g :: rest)
    (h : Parser.advance (Point.origin.behind before) (g :: rest) front.spine front.readings =
      .alive next) : next.Tidy := by
  obtain ⟨spine, readings, below, hwholes, hlevel, known, hspec⟩ :=
    advance_spec (Point.origin.behind before) (g :: rest) fun x hx => (sound x hx).viable
  rw [h] at hspec
  change Parser.wholes spine readings = front.wholes at hwholes
  have hstage : Stage text before (g :: rest) below spine readings :=
    ⟨hwholes ▸ sound, hlevel, known, hwholes ▸ tidy.preferred, hwholes ▸ tidy.clean⟩
  obtain ⟨_, hnext⟩ := hspec
  constructor
  · intro earlier r later w lower hsplit kind opens holds
    rw [hnext] at hsplit
    obtain ⟨u, e, t, rfl, hkept⟩ := hstage.kept hsplit
    exact hkept.holds split kind opens holds
  · intro x hx
    rw [hnext] at hx
    obtain ⟨earlier, later, hsplit⟩ := List.append_of_mem hx
    obtain ⟨u, e, t, rfl, hkept⟩ := hstage.kept hsplit
    exact hkept.clean_next split

/-- No tree that a tidy front accepts holds an allotment of a single remaining clause. -/
theorem Front.Tidy.not_lone {front : Front} {root : Tree} (tidy : front.Tidy)
    (sound : front.Sound text before)
    (h : Parser.advance (Point.origin.behind before) rest front.spine front.readings =
      .accepted root) : ¬root.Lone := by
  obtain ⟨_, _, _, _, _, _, hspec⟩ :=
    advance_spec (Point.origin.behind before) rest fun x hx => (sound x hx).viable
  rw [h] at hspec
  obtain ⟨⟨e, q⟩, he, rfl⟩ := mem_of_accepted? hspec
  obtain ⟨x, hx, hex⟩ := List.mem_flatMap.1 he
  have hviable := (sound x hx).viable
  obtain ⟨_, token, hread, stack, hbefore, hs⟩ := (accepted_mem_endings_iff hviable).1 ⟨q, hex⟩
  have does : x.Does rest token (.accepted root) :=
    ⟨hviable, hread, (Ends.accepted hbefore hs).settles hviable⟩
  rcases does.settles.clean_or_shut hviable (tidy.clean x hx) with
    ⟨_, w, lower, kind, opens, hshut⟩ | hclean
  · obtain ⟨earlier, later, hsplit⟩ := List.append_of_mem hx
    obtain ⟨s, _, hleads⟩ := tidy.preferred _ _ _ w lower hsplit kind opens (.inr hshut)
    have hend := ((hleads.shut hviable hshut opens).findsToo does.mem_actions).1
    exact absurd does.settles.kind_of_accepted hend
  · exact hclean.2 root rfl

/-- What a sweep accepts holds no allotment of a single remaining clause. -/
theorem Sweeps.not_lone {front : Front} {result : Result} (h : Sweeps before front rest result)
    (split : text = before ++ rest) (sound : front.Sound text before) (tidy : front.Tidy)
    {root : Tree} (valid : result = .valid root) : ¬root.Lone := by
  induction h with
  | accepts hadvance =>
    obtain rfl := Result.valid.inj valid
    exact tidy.not_lone sound hadvance
  | ends | fails => cases valid
  | reads hadvance _ _ ih =>
    exact ih (by simpa using split) (sound.advance split hadvance) (tidy.advance sound split hadvance)
      valid
  | passes nobody _ ih => exact ih (by simpa using split) (sound.keep split nobody) tidy valid

theorem not_lone_of_parse {root : Tree} (h : parse text = .valid root) : ¬root.Lone :=
  (sweeps_of_parse h).not_lone (List.nil_append text).symm (Front.initial_sound text)
    Front.initial_tidy rfl

end Numscript.Parser
