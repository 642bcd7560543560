import Numscript.Proofs.Automaton.Pairs
import Numscript.Proofs.Tree.Leaves
import Numscript.Tree.Sketch

/-!
# Sketches and their texts

The text of a sketch is read as the sketch. A reader that meets the text of a node between two words has the node
in front of the sketches that were complete before, and nothing else has changed; it does not matter what the
text stands in. So a text belongs to one sketch.
-/
namespace Numscript

theorem Symbol.mem_all (s : Symbol) : s ∈ Symbol.error :: Symbol.all := by
  rcases s with t | n | a | _
  · simp [Symbol.all, Terminal.mem_all t]
  · simp [Symbol.all, Nonterminal.mem_all n]
  · cases a <;> simp [Symbol.all, Alias.all]
  · exact List.mem_cons_self

/-- A letter of a word: neither a parenthesis nor a space nor a colon. -/
def isWordLetter (c : Char) : Bool := c ≠ '(' && c ≠ ')' && c ≠ ' ' && c ≠ ':'

namespace NamedSymbol

theorem ofName?_name (s : NamedSymbol) : ofName? s.1.name = some s := by
  have hall : ∀ s ∈ Symbol.error :: Symbol.all, s.isNamed = true →
      ((Symbol.error :: Symbol.all).find? fun t => t.isNamed && t.name = s.name) = some s := by
    decide +kernel
  rw [ofName?, hall s.1 s.1.mem_all s.2, Option.bind_some, dif_pos s.2]

theorem name_letters (s : NamedSymbol) : s.1.name.toList.all isWordLetter = true := by
  have hall : ∀ s ∈ Symbol.error :: Symbol.all, s.isNamed = true →
      s.name.toList.all isWordLetter = true := by
    decide +kernel
  exact hall s.1 s.1.mem_all s.2

end NamedSymbol

namespace Field

theorem ofLabel?_label (f : Field) : ofLabel? f.label = some f := by
  cases f <;> decide

theorem label_letters (f : Field) : f.label.toList.all isWordLetter = true := by
  cases f <;> decide

end Field

namespace Sketch

theorem toList_intercalate (name : String) (texts : List String) :
    (" ".intercalate (name :: texts)).toList = name.toList ++ texts.flatMap fun t => ' ' :: t.toList := by
  induction texts generalizing name with
  | nil => simp
  | cons t texts ih => simp [String.intercalate_cons_cons, ih]

/-- Some letters take a reader to another one. -/
def Reads (r : Reader) (letters : List Char) (s : Reader) : Prop :=
  letters.foldlM Reader.step r = some s

namespace Reads

theorem append {r s t : Reader} {u v : List Char} (h : Reads r u s) (h' : Reads s v t) :
    Reads r (u ++ v) t := by
  rw [Reads, List.foldlM_append, h]
  exact h'

theorem letter {r s t : Reader} {c : Char} {u : List Char} (h : r.step c = some s) (h' : Reads s u t) :
    Reads r (c :: u) t := by
  rw [Reads, List.foldlM_cons, h]
  exact h'

theorem word {w : List Char} (h : w.all isWordLetter = true) (r : Reader) :
    Reads r w { r with word := w.reverse ++ r.word } := by
  induction w generalizing r with
  | nil => rfl
  | cons c w ih =>
    rw [List.all_cons, Bool.and_eq_true] at h
    have hc := h.1
    simp only [isWordLetter, Bool.and_eq_true, decide_eq_true_eq] at hc
    have hstep : r.step c = some { r with word := c :: r.word } := by
      rw [Reader.step, if_neg hc.1.1.1, if_neg hc.1.1.2, if_neg hc.1.2, if_neg hc.2]
    rw [List.reverse_cons, List.append_assoc]
    exact letter hstep (ih h.2 _)

theorem field (field : Option Field) (before : List Sketch) (trail : List Opening) :
    Reads ⟨[], false, none, before, trail⟩ (fieldText field).toList ⟨[], false, field, before, trail⟩ := by
  cases field with
  | none => rfl
  | some f =>
    rw [fieldText, String.toList_append]
    refine (word f.label_letters _).append ?_
    simp [Reads, Reader.step, Reader.settle, Field.ofLabel?_label]

/-- A word behind an opening parenthesis opens a node. -/
theorem settle_name (field : Option Field) (symbol : NamedSymbol) (before : List Sketch)
    (trail : List Opening) : Reader.settle ⟨symbol.1.name.toList.reverse, true, field, before, trail⟩ =
      some ⟨[], false, none, [], ⟨field, symbol, before⟩ :: trail⟩ := by
  simp [Reader.settle, NamedSymbol.ofName?_name]

end Reads

mutual

/-- Between two words, the text of a sketch is read as the sketch. -/
theorem reads_text (before : List Sketch) (trail : List Opening) : (s : Sketch) →
    Reads ⟨[], false, none, before, trail⟩ s.text.toList ⟨[], false, none, s :: before, trail⟩
  | .mk field symbol children => by
    have hopen : Reads ⟨[], false, field, before, trail⟩ "(".toList ⟨[], true, field, before, trail⟩ := rfl
    have hname := Reads.word symbol.name_letters ⟨[], true, field, before, trail⟩
    have hrest := reads_textOfAll (Reads.settle_name field symbol before trail) children
    rw [List.append_nil] at hname
    rw [text]
    simp only [String.toList_append, toList_intercalate, List.append_assoc]
    exact (Reads.field field before trail).append (hopen.append (hname.append hrest))

/-- Behind the name of a node, the texts of its children and the parenthesis that closes it are read as the node. -/
theorem reads_textOfAll {r : Reader} {o : Opening} {before : List Sketch} {trail : List Opening}
    (h : r.settle = some ⟨[], false, none, before, o :: trail⟩) : (ss : List Sketch) →
    Reads r (((textOfAll ss).flatMap fun t => ' ' :: t.toList) ++ [')'])
      ⟨[], false, none, .mk o.field o.symbol (before.reverse ++ ss) :: o.before, trail⟩
  | [] => by
    rw [List.append_nil]
    refine Reads.letter ?_ rfl
    simp [Reader.step, h, Reader.close]
  | s :: ss => by
    have hspace : r.step ' ' = some ⟨[], false, none, before, o :: trail⟩ := h
    have hrest := reads_textOfAll (r := ⟨[], false, none, s :: before, o :: trail⟩) rfl ss
    rw [List.reverse_cons, List.append_assoc, List.singleton_append] at hrest
    rw [textOfAll, List.flatMap_cons, List.cons_append, List.cons_append, List.append_assoc]
    exact Reads.letter hspace ((reads_text before (o :: trail) s).append hrest)

end

theorem ofString?_text (s : Sketch) : ofString? s.text = some s := by
  have hreads : s.text.toList.foldlM Reader.step .initial = some _ := reads_text [] [] s
  rw [ofString?, hreads]
  rfl

/-! ### Rows -/

/-- What comes behind the rows of some sketches stands higher. -/
def Above (depth : Nat) (rows : List Row) : Prop := ∀ r ∈ rows.head?, r.depth < depth

theorem textOfAll_append (ss ss' : List Sketch) :
    textOfAll (ss ++ ss') = textOfAll ss ++ textOfAll ss' := by
  induction ss with
  | nil => rfl
  | cons s ss ih => rw [List.cons_append, textOfAll, textOfAll, ih, List.cons_append]

theorem rowsOfAll_append (depth : Nat) (ss ss' : List Sketch) :
    rowsOfAll depth (ss ++ ss') = rowsOfAll depth ss ++ rowsOfAll depth ss' := by
  induction ss with
  | nil => rfl
  | cons s ss ih => rw [List.cons_append, rowsOfAll, rowsOfAll, ih, List.append_assoc]

theorem above_rowsOfAll {depth : Nat} {rows : List Row} (h : Above depth rows) :
    (ss : List Sketch) → Above (depth + 1) (rowsOfAll depth ss ++ rows)
  | [] => fun r hr => Nat.lt_succ_of_lt (h r hr)
  | .mk field symbol children :: ss => by
    rintro r ⟨⟩
    exact Nat.lt_succ_self depth

/-- The rows of sketches tell the sketches: those of the children are the ones that stand deeper. -/
theorem eq_of_rowsOfAll {depth : Nat} {rest rest' : List Row} (above : Above depth rest)
    (above' : Above depth rest') : (ss ss' : List Sketch) →
    rowsOfAll depth ss ++ rest = rowsOfAll depth ss' ++ rest' → ss = ss' ∧ rest = rest'
  | [], [], h => ⟨rfl, h⟩
  | [], .mk field symbol children :: ss', h =>
    absurd (above ⟨depth, field, symbol⟩ (by rw [show rest = _ from h]; rfl)) (Nat.lt_irrefl depth)
  | .mk field symbol children :: ss, [], h =>
    absurd (above' ⟨depth, field, symbol⟩ (by rw [show rest' = _ from h.symm]; rfl)) (Nat.lt_irrefl depth)
  | .mk field symbol children :: ss, .mk field' symbol' children' :: ss', h => by
    rw [rowsOfAll, rowsOfAll, rows, rows] at h
    simp only [List.cons_append, List.append_assoc, List.cons.injEq, Row.mk.injEq, true_and] at h
    obtain ⟨⟨rfl, hsymbol⟩, hrows⟩ := h
    obtain ⟨rfl, hbehind⟩ := eq_of_rowsOfAll (above_rowsOfAll above ss) (above_rowsOfAll above' ss')
      children children' hrows
    obtain ⟨rfl, hrest⟩ := eq_of_rowsOfAll above above' ss ss' hbehind
    rw [Subtype.ext hsymbol]
    exact ⟨rfl, hrest⟩

theorem eq_of_rows {depth : Nat} {s s' : Sketch} (h : s.rows depth = s'.rows depth) : s = s' := by
  have hrows : rowsOfAll depth [s] ++ [] = rowsOfAll depth [s'] ++ [] := by
    rw [rowsOfAll, rowsOfAll, h]
    rfl
  have hnil : Above depth [] := fun r hr => absurd hr (Option.not_mem_none r)
  exact (List.cons.inj (eq_of_rowsOfAll hnil hnil [s] [s'] hrows).1).1

end Sketch

/-! ### The sketch of a tree -/

theorem Row.namedOnes_cons (r : Row) (rows : List Row) : namedOnes (r :: rows) =
    if r.label.symbol.isNamed = true then r.sketch :: namedOnes rows else namedOnes rows := by
  rw [namedOnes, List.filter_cons]
  split <;> rfl

theorem Row.namedOnes_append (rows rows' : List Row) :
    namedOnes (rows ++ rows') = namedOnes rows ++ namedOnes rows' := by
  rw [namedOnes, List.filter_append, List.map_append, namedOnes, namedOnes]

namespace Node

theorem exists_sketches {n : Node} (h : n.isNamed = true) : ∃ sketch, n.sketches = [sketch] := by
  obtain ⟨label, children⟩ := n
  replace h : label.symbol.isNamed = true := h
  exact ⟨_, by rw [sketches, dif_pos h]⟩

mutual

/-- An S-expression shows the sketch. -/
theorem expressions_eq : (n : Node) → n.expressions = Sketch.textOfAll n.sketches
  | .mk label children => by
    have hchildren := expressionsOfAll_eq children
    by_cases hnamed : label.symbol.isNamed = true
    · rw [expressions, sketches, if_pos hnamed, dif_pos hnamed, hchildren]
      simp only [Sketch.textOfAll, Sketch.text]
      cases label.field <;> rfl
    · rw [expressions, sketches, if_neg hnamed, dif_neg hnamed]
      rfl

theorem expressionsOfAll_eq : (nodes : List Node) →
    expressionsOfAll nodes = Sketch.textOfAll (sketchesOfAll nodes)
  | [] => rfl
  | n :: rest => by
    rw [expressionsOfAll, sketchesOfAll, expressions_eq n, expressionsOfAll_eq rest, Sketch.textOfAll_append]

end

mutual

/-- The rows of the sketch are the named rows, if no anonymous node has children. -/
theorem rows_sketches (depth : Nat) : (n : Node) →
    (∀ m ∈ n :: n.inside, m.isNamed = false → m.children = []) →
    Sketch.rowsOfAll depth n.sketches = Row.namedOnes (n.rows depth)
  | .mk label children, plain => by
    rw [sketches, rows, Row.namedOnes_cons]
    by_cases hnamed : label.symbol.isNamed = true
    · have hchildren := rows_sketchesOfAll (depth + 1) children fun m hm =>
        plain m (List.mem_cons_of_mem _ hm)
      rw [dif_pos hnamed, if_pos hnamed, ← hchildren, Sketch.rowsOfAll, Sketch.rowsOfAll, Sketch.rows,
        List.append_nil]
      rfl
    · have hanonymous : label.symbol.isNamed = false := by simpa using hnamed
      have hnil : children = [] := plain _ List.mem_cons_self hanonymous
      rw [dif_neg hnamed, if_neg hnamed, hnil]
      rfl

theorem rows_sketchesOfAll (depth : Nat) : (nodes : List Node) →
    (∀ m ∈ insideAll nodes, m.isNamed = false → m.children = []) →
    Sketch.rowsOfAll depth (sketchesOfAll nodes) = Row.namedOnes (rowsOfAll depth nodes)
  | [], _ => rfl
  | n :: rest, plain => by
    rw [insideAll, ← List.cons_append, List.forall_mem_append] at plain
    rw [sketchesOfAll, Sketch.rowsOfAll_append, rows_sketches depth n plain.1,
      rows_sketchesOfAll depth rest plain.2, rowsOfAll, Row.namedOnes_append]

end

end Node
end Numscript
