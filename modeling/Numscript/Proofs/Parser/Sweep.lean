import Mathlib.Data.List.Induction
import Numscript.Proofs.Parser.Frontier
import Numscript.Parser.Parse

/-!
# The sweep

A sweep over a text follows the frontier. What its front stands for are readings on the frontier, and
every reading on the frontier has one with the same outline among them. So a text is valid if and only
if some run of the machine accepts it.
-/
namespace Numscript.Parser

theorem Reading.rivals_iff {a b : Reading} :
    a.rivals b = true ↔ a.point = b.point ∧ a.stack.outline = b.stack.outline := by
  simp [Reading.rivals]

theorem Reading.rivals_trans {a b c : Reading} (h : a.rivals b = true) (h' : b.rivals c = true) :
    a.rivals c = true := by
  rw [rivals_iff] at h h' ⊢
  exact ⟨h.1.trans h'.1, h.2.trans h'.2⟩

theorem Reading.rivals_over {a b : Reading} (h : a.rivals b = true) (lower : Stack) :
    (a.over lower).rivals (b.over lower) = true := by
  rw [rivals_iff] at h ⊢
  refine ⟨h.1, ?_⟩
  simp only [Reading.over, Stack.outline, List.map_append] at h ⊢
  rw [h.2]

theorem dropRivals_sublist (readings : List Reading) : (dropRivals readings).Sublist readings := by
  induction readings with
  | nil => exact .slnil
  | cons r readings ih => exact (List.filter_sublist.trans ih).cons_cons r

/-- A reading is dropped only for an earlier one that goes on alike. -/
theorem mem_dropRivals_or (before : List Reading) (a : Reading) (behind : List Reading) :
    a ∈ dropRivals (before ++ a :: behind) ∨
      ∃ b ∈ before, b ∈ dropRivals (before ++ a :: behind) ∧ b.rivals a = true := by
  induction before with
  | nil => exact .inl List.mem_cons_self
  | cons r before ih =>
    have hkeep : ∀ {c}, c ∈ dropRivals (before ++ a :: behind) → r.rivals c = false →
        c ∈ dropRivals (r :: before ++ a :: behind) := fun hc hr =>
      List.mem_cons_of_mem _ (List.mem_filter.2 ⟨hc, by simp [hr]⟩)
    have hfirst : r ∈ dropRivals (r :: before ++ a :: behind) := List.mem_cons_self
    rcases ih with ha | ⟨b, hb, hmem, hrivals⟩
    · cases hr : r.rivals a with
      | true => exact .inr ⟨r, List.mem_cons_self, hfirst, hr⟩
      | false => exact .inl (hkeep ha hr)
    · cases hr : r.rivals b with
      | true => exact .inr ⟨r, List.mem_cons_self, hfirst, Reading.rivals_trans hr hrivals⟩
      | false => exact .inr ⟨b, List.mem_cons_of_mem _ hb, hkeep hmem hr, hrivals⟩

/-- What becomes of a reading over a level, with its whole stack. -/
theorem Level.nexts_eq {below : Option Nat} {p : Point} {text : List Glyph} {spine : List Junction}
    {readings : List Reading} (h : Level below p text spine readings) {r : Reading} {t : Stack}
    (hr : r ∈ readings) (ht : t ∈ tails spine) :
    (r.over t).nexts p text = (alive (r.endings below p text)).map (·.over t) := by
  rw [Reading.nexts, h r hr t ht, alive_over]

/-- The readings over a level are those that the whole readings become. -/
theorem Level.mem_wholes_alive {below : Option Nat} {p : Point} {text : List Glyph}
    {spine : List Junction} {readings : List Reading} (h : Level below p text spine readings)
    {x : Reading} : x ∈ wholes spine (alive (endingsAt below p text readings)) ↔
      ∃ y ∈ wholes spine readings, x ∈ y.nexts p text := by
  have halive : ∀ b, b ∈ alive (endingsAt below p text readings) ↔
      ∃ r ∈ readings, b ∈ alive (r.endings below p text) := by
    intro b
    simp only [mem_alive, endingsAt_eq, List.mem_flatMap]
  constructor
  · intro hx
    obtain ⟨b, hb, t, ht, rfl⟩ := mem_wholes.1 hx
    obtain ⟨r, hr, hb⟩ := (halive b).1 hb
    refine ⟨r.over t, mem_wholes.2 ⟨r, hr, t, ht, rfl⟩, ?_⟩
    rw [h.nexts_eq hr ht]
    exact List.mem_map.2 ⟨b, hb, rfl⟩
  · rintro ⟨y, hy, hx⟩
    obtain ⟨r, hr, t, ht, rfl⟩ := mem_wholes.1 hy
    rw [h.nexts_eq hr ht] at hx
    obtain ⟨b, hb, rfl⟩ := List.mem_map.1 hx
    exact mem_wholes.2 ⟨b, (halive b).2 ⟨r, hr, hb⟩, t, ht, rfl⟩

/-- What a front stands for are readings on the frontier. -/
def Front.Sound (text before : List Glyph) (front : Front) : Prop :=
  ∀ x ∈ front.wholes, Frontier text before x

/-- Every reading on the frontier has one with the same outline among those of a front. -/
def Front.Covers (text before : List Glyph) (front : Front) : Prop :=
  ∀ x, Frontier text before x → ∃ y ∈ front.wholes, y.rivals x = true

theorem Front.initial_sound (text : List Glyph) : Front.initial.Sound text [] := by
  intro x hx
  obtain rfl : x = ⟨[], .origin⟩ := by simpa [Front.wholes, Front.initial] using hx
  exact .start

theorem Front.initial_covers (text : List Glyph) : Front.initial.Covers text [] := by
  intro x hx
  generalize hb : ([] : List Glyph) = b at hx
  cases hx with
  | start => exact ⟨⟨[], .origin⟩, by simp [Front.wholes, Front.initial], rfl⟩
  | next => simp at hb

/-- A front keeps to the frontier where no reading stands. -/
theorem Front.Sound.keep {text before rest : List Glyph} {g : Glyph} {front : Front}
    (h : front.Sound text before) (split : text = before ++ g :: rest)
    (hnone : ∀ x ∈ front.wholes, x.point ≠ Point.origin.behind before) :
    front.Sound text (before ++ [g]) := by
  intro x hx
  refine .next (h x hx) split ?_
  rw [nexts_of_ne (hnone x hx)]
  exact List.mem_singleton.2 rfl

theorem Front.Covers.keep {text before : List Glyph} {g : Glyph} {front : Front}
    (h : front.Covers text before)
    (hnone : ∀ x ∈ front.wholes, x.point ≠ Point.origin.behind before) :
    front.Covers text (before ++ [g]) := by
  intro x hx
  generalize hb : before ++ [g] = b at hx
  cases hx with
  | start => simp at hb
  | @next before' rest g' r _ reached split next =>
    obtain ⟨rfl, -⟩ := List.append_inj' hb rfl
    obtain ⟨y, hy, hrivals⟩ := h r reached
    have hne : r.point ≠ Point.origin.behind before := by
      rw [← (Reading.rivals_iff.1 hrivals).1]
      exact hnone y hy
    rw [nexts_of_ne hne] at next
    obtain rfl := List.mem_singleton.1 next
    exact ⟨y, hy, hrivals⟩

theorem exists_of_forall₂ {α β : Type} {R : α → β → Prop} {l : List α} {m : List β}
    (h : List.Forall₂ R l m) {a : α} (ha : a ∈ l) : ∃ b ∈ m, R a b := by
  induction h with
  | nil => cases ha
  | @cons c d l m hcd _ ih =>
    rcases List.mem_cons.1 ha with rfl | ha
    · exact ⟨d, List.mem_cons_self, hcd⟩
    · obtain ⟨b, hb, hab⟩ := ih ha
      exact ⟨b, List.mem_cons_of_mem _ hb, hab⟩

/-- Readings with the same outline become readings with the same outline. -/
theorem endings_alike {x y : Reading} {p : Point} {text : List Glyph} (hx : Viable x.stack)
    (hy : Viable y.stack) (h : y.rivals x = true) {e : Ending × Point}
    (he : e ∈ x.endings ground p text) (hfailed : e.1 ≠ .failed) :
    ∃ e' ∈ y.endings ground p text, Ending.Alike e.1 e'.1 ∧ e'.2 = e.2 := by
  obtain ⟨hpoint, houtline⟩ := Reading.rivals_iff.1 h
  unfold Reading.endings at he ⊢
  rw [hpoint]
  split at he
  · next hp =>
    rw [if_pos hp]
    have hlength : y.stack.length = x.stack.length := by
      have := congrArg List.length houtline
      simpa [Stack.outline] using this
    have hbound : reductionBound y.stack = reductionBound x.stack := by
      rw [reductionBound, reductionBound, hlength]
    simp only [advanceStack, Stack.top?_ground, outline_state houtline, hbound] at he ⊢
    cases htoken : (Automaton.mode? x.stack.state).bind fun mode =>
        Lexer.lookahead? mode p text with
    | none =>
      simp only [htoken] at he
      obtain rfl := List.mem_singleton.1 he
      exact absurd rfl hfailed
    | some token =>
      simp only [htoken] at he ⊢
      obtain ⟨a, ha, rfl⟩ := List.mem_map.1 he
      have hall := hx.settle_alike hy houtline token (reductionBound x.stack)
      obtain ⟨b, hb, halike⟩ := exists_of_forall₂ hall ha
      exact ⟨(b, token.stop), List.mem_map.2 ⟨b, hb, rfl⟩, halike, rfl⟩
  · next hp =>
    rw [if_neg hp]
    obtain rfl := List.mem_singleton.1 he
    exact ⟨_, List.mem_singleton.2 rfl, .pushed houtline, rfl⟩

/-- One token more, and a front still stands for readings on the frontier, and for all of them. -/
theorem advance_frontier {text before rest : List Glyph} {front : Front} {next : Front}
    (sound : front.Sound text before)
    (h : advance (Point.origin.behind before) rest front.spine front.readings = .alive next) :
    (∀ x ∈ next.wholes, ∃ y ∈ front.wholes, x ∈ y.nexts (Point.origin.behind before) rest) ∧
      ∀ y ∈ front.wholes, ∀ x ∈ y.nexts (Point.origin.behind before) rest,
        ∃ z ∈ next.wholes, z.rivals x = true := by
  obtain ⟨spine, readings, below, hwholes, hlevel, _, hspec⟩ :=
    advance_spec (Point.origin.behind before) rest fun x hx => (sound x hx).viable
  rw [h] at hspec
  obtain ⟨_, hnext⟩ := hspec
  constructor
  · intro x hx
    rw [hnext] at hx
    obtain ⟨b, hb, t, ht, rfl⟩ := mem_wholes.1 hx
    have hmem := mem_wholes.2 ⟨b, (dropRivals_sublist _).subset hb, t, ht, rfl⟩
    obtain ⟨y, hy, hxy⟩ := hlevel.mem_wholes_alive.1 hmem
    rw [hwholes] at hy
    exact ⟨y, hy, hxy⟩
  · intro y hy x hx
    rw [Front.wholes, ← hwholes] at hy
    obtain ⟨b, hb, t, ht, rfl⟩ := mem_wholes.1 (hlevel.mem_wholes_alive.2 ⟨y, hy, hx⟩)
    obtain ⟨before', behind', hsplit⟩ := List.append_of_mem hb
    rw [hnext]
    rw [hsplit]
    rcases mem_dropRivals_or before' b behind' with
      hmem | ⟨c, _, hmem, hrivals⟩
    · exact ⟨_, mem_wholes.2 ⟨b, hmem, t, ht, rfl⟩, Reading.rivals_iff.2 ⟨rfl, rfl⟩⟩
    · exact ⟨_, mem_wholes.2 ⟨c, hmem, t, ht, rfl⟩, Reading.rivals_over hrivals t⟩

theorem mem_of_accepted? {endings : List (Ending × Point)} {root : Tree}
    (h : accepted? endings = some root) : ∃ e ∈ endings, e.1 = .accepted root := by
  obtain ⟨e, he, hroot⟩ := List.exists_of_findSome?_eq_some h
  refine ⟨e, he, ?_⟩
  split at hroot
  · next heq => rw [heq, Option.some.inj hroot]
  · cases hroot

/-- A reading that ends by accepting stands at the place and meets a token that accepts. -/
theorem accepted_mem_endings_iff {x : Reading} {p : Point} {rest : List Glyph} {root : Tree}
    (hv : Viable x.stack) : (∃ q, (.accepted root, q) ∈ x.endings ground p rest) ↔
      x.point = p ∧ ∃ token, x.token? rest = some token ∧ ∃ stack,
        Completes token x.stack stack ∧ step ground token stack = .accepted root := by
  constructor
  · rintro ⟨q, h⟩
    unfold Reading.endings at h
    split at h
    · next hp =>
      refine ⟨hp, ?_⟩
      rw [advanceStack, Stack.top?_ground] at h
      simp only at h
      rw [Reading.token?, Stack.top?_ground, Option.bind_some, hp]
      cases htoken : (Automaton.mode? x.stack.state).bind fun mode =>
          Lexer.lookahead? mode p rest with
      | none => simp [htoken] at h
      | some token =>
        simp only [htoken, List.mem_map, Prod.mk.injEq] at h
        obtain ⟨e, he, rfl, _⟩ := h
        rcases ends_of_mem_settle he with hf | hf | hf
        · cases hf
        · cases hf
        · cases hf with
          | accepted before hs => exact ⟨token, rfl, _, before, hs⟩
    · simp at h
  · rintro ⟨rfl, token, htoken, stack, before, hs⟩
    refine ⟨token.stop, ?_⟩
    rw [Reading.token?, Stack.top?_ground, Option.bind_some] at htoken
    rw [Reading.endings, if_pos rfl, advanceStack, Stack.top?_ground]
    simp only [htoken]
    exact List.mem_map.2
      ⟨_, hv.mem_settle (.accepted before hs) x.stack.potential_le, rfl⟩

theorem behind_snoc (before : List Glyph) (g : Glyph) :
    Point.origin.behind (before ++ [g]) = (Point.origin.behind before).after g := by
  rw [Point.behind_append]
  rfl

theorem recognises_of_advance {text before rest : List Glyph} {front : Front} {root : Tree}
    (split : text = before ++ rest) (sound : front.Sound text before)
    (h : advance (Point.origin.behind before) rest front.spine front.readings =
      .accepted root) : Recognises text root := by
  obtain ⟨_, _, _, _, _, _, hspec⟩ :=
    advance_spec (Point.origin.behind before) rest fun x hx => (sound x hx).viable
  rw [h] at hspec
  obtain ⟨e, he, hroot⟩ := mem_of_accepted? hspec
  obtain ⟨x, hx, hex⟩ := List.mem_flatMap.1 he
  have hxfrontier := sound x hx
  obtain ⟨hp, token, htoken, stack, hbefore, hs⟩ :=
    (accepted_mem_endings_iff hxfrontier.viable).1 ⟨e.2, by rw [← hroot]; exact hex⟩
  exact .accept hxfrontier.reaches split hp htoken hbefore hs

theorem Front.Sound.advance {text before rest : List Glyph} {g : Glyph} {front next : Front}
    (sound : front.Sound text before) (split : text = before ++ g :: rest)
    (h : Parser.advance (Point.origin.behind before) (g :: rest) front.spine front.readings =
      .alive next) : next.Sound text (before ++ [g]) := by
  intro x hx
  obtain ⟨y, hy, hxy⟩ := (advance_frontier sound h).1 x hx
  exact .next (sound y hy) split hxy

theorem point_ne_of_any {front : Front} {p : Point}
    (h : ¬(front.readings.any (·.point = p)) = true) : ∀ x ∈ front.wholes, x.point ≠ p := by
  intro x hx hp
  obtain ⟨r, hr, t, _, rfl⟩ := mem_wholes.1 hx
  have hpoint : r.point = p := hp
  exact h (List.any_eq_true.2 ⟨r, hr, by simpa using hpoint⟩)

/-- The course of a sweep behind a part of a text: from the front there, over the rest, to a result. -/
inductive Sweeps : List Glyph → Front → List Glyph → Result → Prop where
  /-- A reading accepts at the place. -/
  | accepts {before rest : List Glyph} {front : Front} {root : Tree}
      (advances : advance (Point.origin.behind before) rest front.spine front.readings =
        .accepted root) : Sweeps before front rest (.valid root)
  /-- The text ends, and no reading accepts. -/
  | ends {before : List Glyph} {front next : Front}
      (advances : advance (Point.origin.behind before) [] front.spine front.readings = .alive next) :
      Sweeps before front [] (.invalid (Point.origin.behind before))
  /-- No reading goes on from the place. -/
  | fails {before rest : List Glyph} {g : Glyph} {front next : Front}
      (stands : (front.readings.any (·.point = Point.origin.behind before)) = true)
      (advances : advance (Point.origin.behind before) (g :: rest) front.spine front.readings =
        .alive next) (empty : next.readings = []) :
      Sweeps before front (g :: rest) (.invalid (Point.origin.behind before))
  /-- The readings at the place read a token each. -/
  | reads {before rest : List Glyph} {g : Glyph} {front next : Front} {result : Result}
      (advances : advance (Point.origin.behind before) (g :: rest) front.spine front.readings =
        .alive next) (inhabited : next.readings ≠ [])
      (later : Sweeps (before ++ [g]) next rest result) : Sweeps before front (g :: rest) result
  /-- No reading stands at the place. -/
  | passes {before rest : List Glyph} {g : Glyph} {front : Front} {result : Result}
      (nobody : ∀ x ∈ front.wholes, x.point ≠ Point.origin.behind before)
      (later : Sweeps (before ++ [g]) front rest result) : Sweeps before front (g :: rest) result

theorem sweeps_sweep (before : List Glyph) (front : Front) (rest : List Glyph) :
    Sweeps before front rest (sweep front (Point.origin.behind before) rest) := by
  induction rest generalizing before front with
  | nil =>
    rw [sweep]
    split
    · next hadvance => exact .accepts hadvance
    · next hadvance => exact .ends hadvance
  | cons g rest ih =>
    rw [sweep]
    split
    · next hany =>
      split
      · next hadvance => exact .accepts hadvance
      · next next hadvance =>
        split
        · next hempty => exact .fails hany hadvance (List.isEmpty_iff.1 hempty)
        · next hempty =>
          rw [← behind_snoc]
          exact .reads hadvance (by simpa using hempty) (ih ..)
    · next hany =>
      rw [← behind_snoc]
      exact .passes (point_ne_of_any hany) (ih ..)

theorem sweeps_of_parse {text : List Glyph} {result : Result} (h : parse text = result) :
    Sweeps [] Front.initial text result :=
  h ▸ sweeps_sweep [] Front.initial text

/-- What a sweep accepts is accepted by a run of the machine. -/
theorem Sweeps.recognises {text before rest : List Glyph} {front : Front} {result : Result}
    (h : Sweeps before front rest result) (split : text = before ++ rest)
    (sound : front.Sound text before) {root : Tree} (valid : result = .valid root) :
    Recognises text root := by
  induction h with
  | accepts hadvance =>
    obtain rfl := Result.valid.inj valid
    exact recognises_of_advance split sound hadvance
  | ends | fails => cases valid
  | reads hadvance _ _ ih => exact ih (by simpa using split) (sound.advance split hadvance) valid
  | passes nobody _ ih => exact ih (by simpa using split) (sound.keep split nobody) valid

theorem Front.Covers.advance {text before rest : List Glyph} {g : Glyph} {front next : Front}
    (sound : front.Sound text before) (covers : front.Covers text before)
    (split : text = before ++ g :: rest)
    (h : Parser.advance (Point.origin.behind before) (g :: rest) front.spine front.readings =
      .alive next) : next.Covers text (before ++ [g]) := by
  intro x hx
  generalize hb : before ++ [g] = b at hx
  cases hx with
  | start => simp at hb
  | @next before' rest' g' r _ reached split' hnext =>
    obtain ⟨rfl, hg⟩ := List.append_inj' hb rfl
    obtain rfl : g = g' := List.singleton_inj.1 hg
    obtain rfl : rest = rest' := by
      rw [split] at split'
      simpa using split'
    obtain ⟨y, hy, hrivals⟩ := covers r reached
    have hviable := (sound y hy).viable
    obtain ⟨e, he, halike, hpoint⟩ :=
      endings_alike reached.viable hviable hrivals (mem_alive.1 hnext) nofun
    obtain ⟨e, q⟩ := e
    cases halike with
    | @pushed _ s' houtline =>
      have hmem : ⟨s', q⟩ ∈ y.nexts (Point.origin.behind before) (g :: rest) := mem_alive.2 he
      obtain ⟨z, hz, hzrivals⟩ := (advance_frontier sound h).2 y hy _ hmem
      exact ⟨z, hz, Reading.rivals_trans hzrivals (Reading.rivals_iff.2 ⟨hpoint, houtline⟩)⟩

/-- Before a reading came to a place of the frontier, there was a reading at every place before. -/
theorem Frontier.ancestor {text before middle : List Glyph} {r : Reading}
    (h : Frontier text (before ++ middle) r) : ∃ r', Frontier text before r' := by
  induction middle using List.reverseRecOn generalizing r with
  | nil => exact ⟨r, by simpa using h⟩
  | append_singleton middle g ih =>
    generalize hb : before ++ (middle ++ [g]) = b at h
    cases h with
    | start => simp at hb
    | @next before' _ g' r' _ reached _ _ =>
      rw [← List.append_assoc] at hb
      obtain ⟨rfl, -⟩ := List.append_inj' hb rfl
      exact ih reached

/-- Where a reading on the frontier accepts, the sweep accepts. -/
theorem advance_accepted {text before rest : List Glyph} {front : Front} {r : Reading}
    (sound : front.Sound text before) (covers : front.Covers text before)
    (hr : Frontier text before r)
    (accepts : ∃ root q, (.accepted root, q) ∈
      r.endings ground (Point.origin.behind before) rest) :
    (front.readings.any (·.point = Point.origin.behind before)) = true ∧ ∃ root,
      advance (Point.origin.behind before) rest front.spine front.readings = .accepted root := by
  obtain ⟨root, q, hroot⟩ := accepts
  obtain ⟨y, hy, hrivals⟩ := covers r hr
  obtain ⟨⟨e, q'⟩, he, halike, _⟩ :=
    endings_alike hr.viable (sound y hy).viable hrivals hroot nofun
  constructor
  · by_contra hany
    have hne := point_ne_of_any hany y hy
    have hp := ((accepted_mem_endings_iff hr.viable).1 ⟨q, hroot⟩).1
    exact hne ((Reading.rivals_iff.1 hrivals).1.trans hp)
  · cases hadvance : advance (Point.origin.behind before) rest front.spine front.readings with
    | accepted root' => exact ⟨root', rfl⟩
    | alive next =>
      obtain ⟨_, _, _, _, _, _, hspec⟩ := advance_spec (Point.origin.behind before)
        rest fun x hx => (sound x hx).viable
      rw [hadvance] at hspec
      cases halike with
      | @accepted _ root' => exact absurd rfl (hspec.1 y hy _ he root')

/-- A reading that accepts further on in the text is found by the sweep. -/
theorem sweep_valid {text before middle rest : List Glyph} {front : Front} {r : Reading}
    (split : text = before ++ (middle ++ rest)) (sound : front.Sound text before)
    (covers : front.Covers text before) (hr : Frontier text (before ++ middle) r)
    (accepts : ∃ root q, (.accepted root, q) ∈
      r.endings ground (Point.origin.behind (before ++ middle)) rest) :
    ∃ root, sweep front (Point.origin.behind before) (middle ++ rest) = .valid root := by
  induction middle generalizing before front with
  | nil =>
    rw [List.append_nil] at hr accepts
    obtain ⟨hany, root, hadvance⟩ := advance_accepted sound covers hr accepts
    refine ⟨root, ?_⟩
    cases rest with
    | nil =>
      rw [List.append_nil, sweep, hadvance]
    | cons g rest =>
      rw [List.nil_append, sweep, if_pos hany, hadvance]
  | cons g middle ih =>
    have split' : text = (before ++ [g]) ++ (middle ++ rest) := by simpa using split
    have hr' : Frontier text ((before ++ [g]) ++ middle) r := by simpa using hr
    have accepts' : ∃ root q, (.accepted root, q) ∈
        r.endings ground (Point.origin.behind ((before ++ [g]) ++ middle)) rest := by
      simpa using accepts
    have hcons : text = before ++ g :: (middle ++ rest) := by simpa using split
    rw [List.cons_append, sweep]
    split
    · cases hadvance : advance (Point.origin.behind before) (g :: (middle ++ rest)) front.spine
          front.readings with
      | accepted root' => exact ⟨root', rfl⟩
      | alive next =>
        have sound' := sound.advance hcons hadvance
        have covers' := covers.advance sound hcons hadvance
        obtain ⟨r', hancestor⟩ := hr'.ancestor
        obtain ⟨y, hy, _⟩ := covers' r' hancestor
        obtain ⟨b, hb, _⟩ := mem_wholes.1 hy
        have hne : next.readings.isEmpty = false :=
          List.isEmpty_eq_false_iff.2 (List.ne_nil_of_mem hb)
        simp only [hne]
        rw [← behind_snoc]
        exact ih split' sound' covers' hr' accepts'
    · next hany =>
      have hnone := point_ne_of_any hany
      rw [← behind_snoc]
      exact ih split' (sound.keep hcons hnone) (covers.keep hnone) hr' accepts'

/-- What a text is parsed to, some run of the machine accepts. -/
theorem recognises_of_parse {text : List Glyph} {root : Tree} (h : parse text = .valid root) :
    Recognises text root :=
  (sweeps_of_parse h).recognises (List.nil_append text).symm (Front.initial_sound text) rfl

/-- What some run of the machine accepts is a valid text. -/
theorem parse_of_recognises {text : List Glyph} {root : Tree} (h : Recognises text root) :
    ∃ root', parse text = .valid root' := by
  obtain ⟨reached, split, place, read, completes, accepts⟩ := h
  obtain ⟨before, rest, hsplit, hplace, hfrontier⟩ := frontier_of_reaches reached
  obtain ⟨rfl, rfl⟩ := Point.eq_of_behind (hsplit.symm.trans split) (hplace.symm.trans place)
  have haccepts := (accepted_mem_endings_iff hfrontier.viable).2
    ⟨hplace, _, read, _, completes, accepts⟩
  have hvalid := sweep_valid (split.trans (List.nil_append _).symm) (Front.initial_sound text)
    (Front.initial_covers text) hfrontier ⟨root, haccepts⟩
  rwa [← split] at hvalid

end Numscript.Parser
