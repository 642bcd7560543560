import Numscript.Proofs.Tree.Ends
import Numscript.Proofs.Tree.Sketch

/-!
# What S-expressions tell

The S-expression of a program tells its named nodes, with their kinds, fields and nesting, and nothing else of its
tree. It is read as a sketch, whose rows are the named rows of the outline: anonymous nodes are tokens, so no named
node stands below one of them. Two programs have the same S-expression if and only if they have the same named rows.
-/
namespace Numscript

/-- A phrase shows under a name, its own or an alias. -/
theorem isNamed_of_unaliased {symbol : Symbol} {phrase : Nonterminal}
    (shows : Grammar.unaliased symbol = .nonterminal phrase) (lasting : phrase.isRepetition = false) :
    symbol.isNamed = true := by
  rcases symbol with t | n | a | _
  · cases shows
  · obtain rfl := Symbol.nonterminal.inj shows
    rw [Symbol.isNamed, lasting]
    rfl
  · rfl
  · rfl

theorem children_of_anonymous {bytes : List UInt8} {root : Node} (h : Program.ofBytes bytes = .valid root) :
    ∀ n ∈ root :: root.inside, n.isNamed = false → n.children = [] := by
  intro n hn hanonymous
  rcases List.mem_cons.1 hn with rfl | hn
  · rw [Node.isNamed, (root_of_valid bytes h).1] at hanonymous
    cases hanonymous
  · obtain ⟨_, hsource, _⟩ := exists_source_of_valid bytes h n hn
    cases hsource with
    | token => rfl
    | @phrase phrase layout children symbol field shows lasting =>
      have hnamed := isNamed_of_unaliased shows lasting
      cases hnamed.symm.trans hanonymous

/-- The S-expression of a program is the text of a sketch with the named rows of its outline. -/
theorem exists_sketch {bytes : List UInt8} {root : Node} (h : Program.ofBytes bytes = .valid root) :
    ∃ sketch : Sketch, root.expression = sketch.text ∧ sketch.rows 0 = root.namedRows := by
  have hnamed : root.isNamed = true := by
    rw [Node.isNamed, (root_of_valid bytes h).1]
    rfl
  have hrows := Node.rows_sketches 0 root (children_of_anonymous h)
  have htexts := Node.expressions_eq root
  obtain ⟨sketch, hsketch⟩ := Node.exists_sketches hnamed
  rw [hsketch] at hrows htexts
  refine ⟨sketch, ?_, ?_⟩
  · rw [Node.expression, htexts, Sketch.textOfAll, Sketch.textOfAll, String.intercalate_singleton]
  · rw [Sketch.rowsOfAll, Sketch.rowsOfAll, List.append_nil] at hrows
    exact hrows

/--
The S-expression of a program is read as a sketch with the named rows of the outline. So the S-expressions of two
programs are the same if and only if the named rows are.
-/
theorem expression_tells_namedRows {bytes bytes' : List UInt8} {root root' : Node}
    (h : Program.ofBytes bytes = .valid root) (h' : Program.ofBytes bytes' = .valid root') :
    (∃ sketch, Sketch.ofString? root.expression = some sketch ∧ sketch.rows 0 = root.namedRows) ∧
    (root.expression = root'.expression ↔ root.namedRows = root'.namedRows) := by
  obtain ⟨sketch, htext, hrows⟩ := exists_sketch h
  obtain ⟨sketch', htext', hrows'⟩ := exists_sketch h'
  refine ⟨⟨sketch, by rw [htext, Sketch.ofString?_text], hrows⟩, ?_⟩
  rw [htext, htext', ← hrows, ← hrows']
  constructor
  · intro htexts
    have hread := congrArg Sketch.ofString? htexts
    rw [Sketch.ofString?_text, Sketch.ofString?_text] at hread
    rw [Option.some.inj hread]
  · intro hsame
    rw [Sketch.eq_of_rows hsame]

/-- A variable with the balance of an account, a comment, and a call with a difference. -/
def calledDifference : List UInt8 :=
  "vars \x7b monetary $m = overdraft(@a:$b, USD) \x7d /* c */ f($m - 1)".toList.map fun c => c.toNat.toUInt8

/-- The same with other names on other lines, and with a sum: the operator is anonymous. -/
def calledSum : List UInt8 :=
  "vars \x7bmonetary $n = overdraft(@x:$y, EUR/2)\x7d\n/* d */\nset($n + 20)\n".toList.map
    fun c => c.toNat.toUInt8

theorem expression_tells_calledDifference : ∃ root root' : Node,
    Program.ofBytes calledDifference = .valid root ∧ Program.ofBytes calledSum = .valid root' ∧
    (∃ sketch, Sketch.ofString? root.expression = some sketch ∧ sketch.rows 0 = root.namedRows) ∧
    root.namedRows = root'.namedRows ∧ root.expression = root'.expression := by
  have hsame : (Program.ofBytes calledDifference).root?.isSome = true ∧
      (Program.ofBytes calledDifference).root?.map Node.namedRows =
        (Program.ofBytes calledSum).root?.map Node.namedRows := by
    decide +kernel
  cases hprogram : Program.ofBytes calledDifference with
  | invalid furthest =>
    rw [hprogram] at hsame
    cases hsame.1
  | valid root =>
    cases hprogram' : Program.ofBytes calledSum with
    | invalid furthest =>
      rw [hprogram, hprogram'] at hsame
      cases hsame.2
    | valid root' =>
      rw [hprogram, hprogram'] at hsame
      have hrows : root.namedRows = root'.namedRows := Option.some.inj hsame.2
      obtain ⟨hread, hiff⟩ := expression_tells_namedRows hprogram hprogram'
      exact ⟨root, root', rfl, rfl, hread, hrows, hiff.2 hrows⟩

end Numscript
