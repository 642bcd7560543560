import Numscript.Proofs.Parser.Settle

/-!
# What a front stands for

The readings of a front share what lies below the junctions. `Front.wholes` unfolds all junctions: it
lists every reading with every stack that may lie below it. Reading a token in the front is reading it
in all these readings, each with its whole stack, but for those that go on exactly as an earlier one
does.
-/
namespace Numscript.Parser

/-- The stacks that junctions leave below a reading. -/
def tails : List Junction → List Stack
  | [] => [[]]
  | j :: spine => (tails spine).map (j.first ++ ·) ++ (tails spine).map (j.second ++ ·)

/-- A reading over a lower part of its stack. -/
def Reading.over (lower : Stack) (r : Reading) : Reading := ⟨r.stack ++ lower, r.point⟩

/-- The readings with all that may lie below them. -/
def wholes (spine : List Junction) (readings : List Reading) : List Reading :=
  readings.flatMap fun r => (tails spine).map r.over

/-- The readings that a front stands for. -/
def Front.wholes (front : Front) : List Reading := Parser.wholes front.spine front.readings

theorem tails_ne_nil (spine : List Junction) : tails spine ≠ [] := by
  induction spine with
  | nil => simp [tails]
  | cons j spine ih => simp [tails, ih]

theorem mem_wholes {spine : List Junction} {readings : List Reading} {x : Reading} :
    x ∈ wholes spine readings ↔ ∃ r ∈ readings, ∃ t ∈ tails spine, x = r.over t := by
  simp only [wholes, List.mem_flatMap, List.mem_map, eq_comm]

@[simp] theorem Reading.over_nil (r : Reading) : r.over [] = r := by
  simp [Reading.over]

theorem Reading.over_over (r : Reading) (s t : Stack) : (r.over s).over t = r.over (s ++ t) := by
  simp [Reading.over]

@[simp] theorem wholes_nil (readings : List Reading) : wholes [] readings = readings := by
  simp [wholes, tails]

theorem wholes_lower (j : Junction) (spine : List Junction) (readings : List Reading) :
    wholes spine (j.lower readings) = wholes (j :: spine) readings := by
  simp only [wholes, Junction.lower, List.flatMap_assoc, tails]
  refine List.flatMap_congr fun r _ => ?_
  simp only [List.flatMap_cons, List.flatMap_nil, List.append_nil, List.map_append, List.map_map]
  congr 1 <;> exact List.map_congr_left fun t _ => Reading.over_over r _ t

theorem Frame.eq_of_sameToken {a b : Frame} (h : a.sameToken b = true) : a = b := by
  obtain ⟨p, s⟩ := a
  obtain ⟨q, t⟩ := b
  simp only [Frame.sameToken, Bool.and_eq_true, decide_eq_true_eq] at h
  obtain ⟨⟨rfl, hsome⟩, htoken⟩ := h
  cases s with
  | leaf x =>
    cases t with
    | leaf y => rw [Option.some.inj htoken]
    | node => cases htoken
  | node => cases hsome

/-- Laying down a junction changes nothing in what a front stands for. -/
theorem wholes_join (front : Front) : front.join.wholes = front.wholes := by
  obtain ⟨spine, readings⟩ := front
  unfold Front.join
  split
  · next a first p b second q h =>
    split
    · next hjoin =>
      obtain ⟨rfl, hsame⟩ : p = q ∧ a.sameToken b = true := by simpa using hjoin
      obtain rfl := Frame.eq_of_sameToken hsame
      simp only at h
      subst h
      simp [Front.wholes, wholes, tails, Reading.over, Function.comp_def]
    · rfl
  · rfl

/-- What becomes of a reading at a point of the text. -/
def Reading.endings (below : Option Nat) (p : Point) (text : List Glyph) (r : Reading) :
    List (Ending × Point) :=
  if r.point = p then advanceStack below p text r.stack else [(.pushed r.stack, r.point)]

theorem endingsAt_eq (below : Option Nat) (p : Point) (text : List Glyph)
    (readings : List Reading) :
    endingsAt below p text readings = readings.flatMap (·.endings below p text) := rfl

/-- The readings that a reading becomes at a point of the text, with its whole stack. -/
def Reading.nexts (p : Point) (text : List Glyph) (r : Reading) : List Reading :=
  alive (r.endings ground p text)

/-- What becomes of a reading becomes of it over any lower part, unless it is short of that. -/
theorem endings_over {p : Point} {text : List Glyph} {r : Reading} {lower : Stack}
    (h : Viable (r.stack ++ lower))
    (hshort : ∀ e ∈ r.endings none p text, e.1 ≠ .short) :
    (r.over lower).endings ground p text =
      (r.endings none p text).map fun e => (e.1.over lower, e.2) := by
  unfold Reading.endings at hshort ⊢
  have hpoint : (r.over lower).point = r.point := rfl
  have hstack : (r.over lower).stack = r.stack ++ lower := rfl
  rw [hpoint, hstack]
  by_cases hp : r.point = p
  · rw [if_pos hp] at hshort ⊢
    rw [if_pos hp]
    unfold advanceStack at hshort ⊢
    cases htop : r.stack.top? none with
    | none =>
      simp only [htop] at hshort
      exact absurd rfl (hshort _ (List.mem_singleton.2 rfl))
    | some q =>
      simp only [htop] at hshort
      simp only [Stack.top?_ground, Stack.state_append htop lower]
      cases htoken : (Automaton.mode? q).bind fun mode => Lexer.lookahead? mode p text with
      | none => rfl
      | some token =>
        simp only [htoken] at hshort
        have hsettle := h.settle_append r.stack.potential_le
          (Stack.potential_le (r.stack ++ lower)) fun e he =>
            hshort _ (List.mem_map.2 ⟨e, he, rfl⟩)
        simp only [hsettle, List.map_map, Function.comp_def]
  · rw [if_neg hp, if_neg hp]
    rfl

theorem alive_append (a b : List (Ending × Point)) : alive (a ++ b) = alive a ++ alive b :=
  List.filterMap_append

theorem mem_alive {endings : List (Ending × Point)} {r : Reading} :
    r ∈ alive endings ↔ (.pushed r.stack, r.point) ∈ endings := by
  simp only [alive, List.mem_filterMap]
  constructor
  · rintro ⟨⟨e, p⟩, he, h⟩
    cases e <;> simp at h
    subst h
    exact he
  · intro h
    exact ⟨_, h, rfl⟩

theorem alive_over (lower : Stack) (endings : List (Ending × Point)) :
    alive (endings.map fun e => (e.1.over lower, e.2)) = (alive endings).map (·.over lower) := by
  induction endings with
  | nil => rfl
  | cons e endings ih =>
    obtain ⟨e, p⟩ := e
    cases e with
    | pushed stack => exact congrArg (_ :: ·) ih
    | accepted root => exact ih
    | failed => exact ih
    | short => exact ih

/-- The endings of readings over a lower part are those of the readings alone. -/
def Level (below : Option Nat) (p : Point) (text : List Glyph) (spine : List Junction)
    (readings : List Reading) : Prop :=
  ∀ r ∈ readings, ∀ t ∈ tails spine,
    (r.over t).endings ground p text =
      (r.endings below p text).map fun e => (e.1.over t, e.2)

theorem over_nil (e : Ending) : e.over [] = e := by
  cases e <;> simp [Ending.over]

theorem level_ground (p : Point) (text : List Glyph) (readings : List Reading) :
    Level ground p text [] readings := by
  intro r _ t ht
  obtain rfl := List.mem_singleton.1 ht
  simp [over_nil]

theorem level_of_isShort {p : Point} {text : List Glyph} {spine : List Junction}
    {readings : List Reading} (hv : ∀ x ∈ wholes spine readings, Viable x.stack)
    (h : isShort (endingsAt none p text readings) = false) :
    Level none p text spine readings := by
  intro r hr t ht
  refine endings_over (hv _ (mem_wholes.2 ⟨r, hr, t, ht, rfl⟩)) fun e he hshort => ?_
  have hany : isShort (endingsAt none p text readings) = true := by
    rw [isShort, List.any_eq_true]
    refine ⟨e, List.mem_flatMap.2 ⟨r, hr, he⟩, ?_⟩
    rw [hshort]
  rw [h] at hany
  cases hany

theorem settle_none_ne_accepted {token : Token} {fuel : Nat} {stack : Stack} {root : Tree} :
    .accepted root ∉ settle none token fuel stack := by
  induction fuel generalizing stack with
  | zero => simp [settle]
  | succ fuel ih =>
    rw [settle]
    cases hs : step none token stack with
    | shifted t => simp
    | reduced t => exact ih
    | forked pushed kept => simpa using ih
    | accepted root =>
      unfold step at hs
      split at hs
      · cases hs
      · split at hs
        · cases hs
        · cases hs
        · cases hs
        · next r _ =>
          rcases reduce_cases none r stack with hred | hred | ⟨kept, hred⟩ <;> simp [hred] at hs
        · next r _ =>
          rcases reduce_cases none r stack with hred | hred | ⟨kept, hred⟩ <;> simp [hred] at hs
        · cases hs
        · cases hs
    | refused => simp
    | short => simp
    | stuck => simp

theorem endings_none_ne_accepted {p : Point} {text : List Glyph} {r : Reading}
    {e : Ending × Point} (h : e ∈ r.endings none p text) (root : Tree) : e.1 ≠ .accepted root := by
  rintro hroot
  unfold Reading.endings advanceStack at h
  split at h
  · split at h
    · obtain rfl := List.mem_singleton.1 h
      cases hroot
    · split at h
      · obtain rfl := List.mem_singleton.1 h
        cases hroot
      · obtain ⟨e', he', rfl⟩ := List.mem_map.1 h
        change e' = .accepted root at hroot
        rw [hroot] at he'
        exact settle_none_ne_accepted he'
  · obtain rfl := List.mem_singleton.1 h
    cases hroot

theorem accepted?_eq_none {endings : List (Ending × Point)} (h : accepted? endings = none) :
    ∀ e ∈ endings, ∀ root, e.1 ≠ .accepted root := by
  intro e he root hroot
  have hnone := List.findSome?_eq_none_iff.1 h e he
  rw [hroot] at hnone
  cases hnone

/--
Reading a token in a front is reading it in all readings that the front stands for. The front may
have been lowered for that, which changes none of them. Only where no junction is left, the state below
the readings is known.
-/
theorem advance_spec (p : Point) (text : List Glyph) {spine : List Junction}
    {readings : List Reading} (hv : ∀ x ∈ wholes spine readings, Viable x.stack) :
    ∃ spine' readings' below, wholes spine' readings' = wholes spine readings ∧
      Level below p text spine' readings' ∧ (below = none ∨ spine' = []) ∧
      match advance p text spine readings with
      | .accepted root =>
        accepted? ((wholes spine readings).flatMap (·.endings ground p text)) = some root
      | .alive next =>
        (∀ x ∈ wholes spine readings, ∀ e ∈ x.endings ground p text, ∀ root,
          e.1 ≠ .accepted root) ∧
        next.wholes = wholes spine' (dropRivals (alive (endingsAt below p text readings'))) := by
  induction spine generalizing readings with
  | nil =>
    refine ⟨[], readings, ground, rfl, level_ground p text readings, .inr rfl, ?_⟩
    rw [advance]
    simp only [wholes_nil]
    cases haccepted : accepted? (endingsAt ground p text readings) with
    | some root => exact haccepted
    | none =>
      refine ⟨fun x hx e he => ?_, ?_⟩
      · exact accepted?_eq_none haccepted e (List.mem_flatMap.2 ⟨x, hx, he⟩)
      · simp only [goOn, wholes_join]
        simp [Front.wholes]
  | cons j spine ih =>
    by_cases hshort : isShort (endingsAt none p text readings) = true
    · have hadvance : advance p text (j :: spine) readings =
          advance p text spine (j.lower readings) := by
        rw [advance]
        simp [hshort]
      rw [hadvance, ← wholes_lower]
      rw [← wholes_lower] at hv
      exact ih hv
    · have hnot : isShort (endingsAt none p text readings) = false := by simpa using hshort
      have hlevel := level_of_isShort hv hnot
      refine ⟨j :: spine, readings, none, rfl, hlevel, .inl rfl, ?_⟩
      have hadvance : advance p text (j :: spine) readings =
          .alive (goOn (j :: spine) (endingsAt none p text readings)) := by
        rw [advance]
        simp [hnot]
      rw [hadvance]
      refine ⟨fun x hx e he root => ?_, by simp only [goOn, wholes_join]; rfl⟩
      obtain ⟨r, hr, t, ht, rfl⟩ := mem_wholes.1 hx
      rw [hlevel r hr t ht] at he
      obtain ⟨e', he', rfl⟩ := List.mem_map.1 he
      intro hroot
      cases hkind : e'.1 with
      | accepted root' => exact endings_none_ne_accepted he' root' hkind
      | pushed _ => simp [hkind, Ending.over] at hroot
      | failed => simp [hkind, Ending.over] at hroot
      | short => simp [hkind, Ending.over] at hroot

end Numscript.Parser
