/-!
# Regular expressions

Regular expressions over letters of any kind. A letter of an expression stands for the letters of a
word that satisfy it: a class of characters for a character, a symbol for itself. `Fits` says which
words an expression describes, and `accepts` decides it by taking the expression apart letter by
letter.
-/
namespace Numscript

/-- A regular expression over letters. -/
inductive Regular (α : Type) where
  /-- No word. -/
  | never
  /-- The empty word. -/
  | done
  | one (a : α)
  | seq (r s : Regular α)
  | alt (r s : Regular α)
  /-- Any number of repetitions. -/
  | many (r : Regular α)
  deriving Repr

namespace Regular

variable {α β : Type}

/-- One expression after another. -/
def sequence : List (Regular α) → Regular α
  | [] => .done
  | [r] => r
  | r :: rest => .seq r (sequence rest)

/-- One of several expressions. -/
def choice : List (Regular α) → Regular α
  | [] => .never
  | [r] => r
  | r :: rest => .alt r (choice rest)

/-- At most one repetition. -/
def optional (r : Regular α) : Regular α := .alt r .done

/-- At least one repetition. -/
def oneOrMore (r : Regular α) : Regular α := .seq r (.many r)

/-- The expression with every letter replaced. -/
def map (f : α → β) : Regular α → Regular β
  | .never => .never
  | .done => .done
  | .one a => .one (f a)
  | .seq r s => .seq (r.map f) (s.map f)
  | .alt r s => .alt (r.map f) (s.map f)
  | .many r => .many (r.map f)

/-- The words that an expression describes. -/
inductive Fits (sat : α → β → Bool) : Regular α → List β → Prop where
  | done : Fits sat .done []
  | one {a : α} {b : β} (h : sat a b = true) : Fits sat (.one a) [b]
  | seq {r s : Regular α} {v w : List β} (hr : Fits sat r v) (hs : Fits sat s w) :
      Fits sat (.seq r s) (v ++ w)
  | left {r s : Regular α} {w : List β} (h : Fits sat r w) : Fits sat (.alt r s) w
  | right {r s : Regular α} {w : List β} (h : Fits sat s w) : Fits sat (.alt r s) w
  | manyNil {r : Regular α} : Fits sat (.many r) []
  | manyCons {r : Regular α} {v w : List β} (hr : Fits sat r v) (hs : Fits sat (.many r) w) :
      Fits sat (.many r) (v ++ w)

/-- Whether an expression describes the empty word. -/
def nullable : Regular α → Bool
  | .never | .one _ => false
  | .done | .many _ => true
  | .seq r s => r.nullable && s.nullable
  | .alt r s => r.nullable || s.nullable

/-- One expression after another, without parts that say nothing. -/
def andThen : Regular α → Regular α → Regular α
  | .never, _ => .never
  | .done, s => s
  | r, s => .seq r s

/-- One of two expressions, without parts that describe no word. -/
def orElse : Regular α → Regular α → Regular α
  | .never, s => s
  | r, .never => r
  | r, s => .alt r s

/-- What remains of an expression behind a letter. -/
def deriv (sat : α → β → Bool) (b : β) : Regular α → Regular α
  | .never | .done => .never
  | .one a => if sat a b then .done else .never
  | .seq r s =>
    if r.nullable then orElse (andThen (r.deriv sat b) s) (s.deriv sat b)
    else andThen (r.deriv sat b) s
  | .alt r s => orElse (r.deriv sat b) (s.deriv sat b)
  | .many r => andThen (r.deriv sat b) (.many r)

/-- Whether an expression describes a word. -/
def accepts (sat : α → β → Bool) (r : Regular α) : List β → Bool
  | [] => r.nullable
  | b :: rest => (r.deriv sat b).accepts sat rest

end Regular
end Numscript
