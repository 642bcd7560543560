import Numscript.Proofs.Automaton.Follow
import Numscript.Proofs.Tree.Structural

/-!
# First tokens

The tokens that a phrase may begin with, found through the phrases that its productions begin with. The first
token of a node of the visible tree is one of those.
-/
namespace Numscript

open Automaton (Reduction)
open Grammar (Item productions unaliased)

namespace Grammar

/-- The tokens that a phrase may begin with, through so many phrases that it begins with. -/
def firstIn : (depth : Nat) → Nonterminal → Nat
  | 0, _ => 0
  | depth + 1, n => (productions n).foldr (fun p m =>
      (match (Reduction.children p).head? with
      | some (.terminal t) => Terminal.bits [t]
      | some (.nonterminal x) => firstIn depth x
      | _ => 0) ||| m) 0

/-- The tokens that a phrase may begin with. -/
def first (n : Nonterminal) : Nat := firstIn 7 n

theorem firstIn_steady : ∀ n ∈ Nonterminal.all, firstIn 8 n = first n := by decide +kernel

theorem first_of_token {n : Nonterminal} {p : List Item} {t : Terminal} (hp : p ∈ productions n)
    (head : (Reduction.children p).head? = some (.terminal t)) : (first n).testBit t.index = true := by
  rw [first, firstIn]
  refine Automaton.testBit_foldr hp ?_
  rw [head]
  exact Terminal.testBit_bits.2 (List.mem_singleton_self t)

/-- A production that begins with a phrase. -/
theorem first_of_phrase {n x : Nonterminal} {p : List Item} {t : Terminal} (hp : p ∈ productions n)
    (head : (Reduction.children p).head? = some (.nonterminal x))
    (h : (first x).testBit t.index = true) : (first n).testBit t.index = true := by
  rw [← firstIn_steady n (Nonterminal.mem_all n), firstIn]
  refine Automaton.testBit_foldr hp ?_
  rw [head]
  exact h

end Grammar

/-- The first token of a node that is no comment. -/
def Node.first? (n : Node) : Option Terminal :=
  n.tokens.head?.bind fun l =>
    match unaliased l.symbol with
    | .terminal t => some t
    | _ => none

namespace Tree

/-- The first token of a tree that is no comment. -/
def first? (t : Tree) : Option Terminal :=
  (t.tokens.filter fun token => !token.kind.isComment).head?.map (·.kind)

theorem first?_leaf {token : Token} (plain : token.kind.isComment = false) :
    (leaf token).first? = some token.kind := by
  rw [first?, tokens, List.filter_cons_of_pos (by simp [plain])]
  rfl

/-- The first token of a phrase is the one of its first child that is no comment. -/
theorem exists_first_child {children : List Tree} {x : Symbol} {symbols : List Symbol}
    (h : structural children = x :: symbols) : ∃ c ∈ children, c.isComment = false ∧ c.symbol = x ∧
      ∀ k, c.first? = some k →
        ((tokensOfAll children).filter fun token => !token.kind.isComment).head?.map (·.kind) =
          some k := by
  induction children with
  | nil => cases h
  | cons c children ih =>
    cases hc : c.isComment with
    | true =>
      obtain ⟨d, hd, hplain, hsymbol, hfirst⟩ := ih ((structural_comment hc children).symm.trans h)
      refine ⟨d, List.mem_cons_of_mem c hd, hplain, hsymbol, fun k hk => ?_⟩
      cases c with
      | leaf token =>
        have hcomment : token.kind.isComment = true := hc
        rw [tokensOfAll, tokens, List.singleton_append, List.filter_cons_of_neg (by simp [hcomment])]
        exact hfirst k hk
      | node => cases hc
    | false =>
      have hsymbol := (List.cons.inj ((structural_cons hc children).symm.trans h)).1
      refine ⟨c, List.mem_cons_self, hc, hsymbol, fun k hk => ?_⟩
      obtain ⟨token, htoken, rfl⟩ := Option.map_eq_some_iff.1 hk
      rw [tokensOfAll, List.filter_append, List.head?_append, htoken]
      rfl

/-- The first token of a phrase is one that the phrase may begin with. -/
theorem Built.first {text : List Glyph} {t : Tree} (h : t.Built text) (n : Nonterminal)
    (phrase : t.symbol = .nonterminal n) (inner : n ≠ .program) :
    ∃ k, t.first? = some k ∧ (Grammar.first n).testBit k.index = true := by
  induction h generalizing n with
  | leaf => cases phrase
  | @node m layout children makes below ih =>
    obtain rfl := Symbol.nonterminal.inj phrase
    have hne := ((productions_solid m (Nonterminal.mem_all m) _ makes.items).1).resolve_left inner
    obtain ⟨x, symbols, hstructural⟩ : ∃ x symbols, structural children = x :: symbols := by
      refine List.exists_cons_of_ne_nil fun hnil => hne ?_
      rw [hnil]
      rfl
    have hhead := congrArg List.head? makes.children
    rw [hstructural, List.head?_cons] at hhead
    obtain ⟨c, hc, hplain, hsymbol, hfirst⟩ := exists_first_child hstructural
    rw [first?, tokens]
    cases c with
    | leaf token =>
      refine ⟨token.kind, hfirst _ (first?_leaf hplain), Grammar.first_of_token makes.items ?_⟩
      rw [hstructural, hhead, ← hsymbol]
      rfl
    | node x' layout' children' =>
      have hinner : x' ≠ .program := by
        rintro rfl
        exact MakesUp.ne_program makes x (hstructural ▸ List.mem_cons_self) hsymbol.symm
      obtain ⟨k, hk, hbit⟩ := ih _ hc x' rfl hinner
      refine ⟨k, hfirst k hk, Grammar.first_of_phrase makes.items ?_ hbit⟩
      rw [hstructural, hhead, ← hsymbol]
      rfl

theorem Source.shows {text : List Glyph} {t : Tree} {n : Node} (h : t.Source n) (built : t.Built text)
    (inner : t.symbol ≠ .nonterminal .program) : List.Forall₂ Label.Shows t.tokens n.leaves := by
  have hone : ∀ n : Node, Node.leavesOfAll [n] = n.leaves := fun n => by simp [Node.leavesOfAll_eq]
  cases h with
  | @token token symbol field shows =>
    rw [tokens]
    have hshows : Label.Shows token ⟨symbol, field, token.kind.isComment, token.start, token.stop⟩ :=
      ⟨shows, rfl, rfl, rfl⟩
    cases symbol with
    | nonterminal => cases shows
    | terminal | «alias» | error => exact .cons hshows .nil
  | @phrase phrase layout children symbol field shows lasting =>
    have hdisplays := built.displays.2 _ _ _ rfl
    have hspanning := displays_spanning hdisplays (built.tokens_ne_nil inner) symbol field .origin
    rw [← hone]
    exact hspanning.leaves

theorem Source.first? {text : List Glyph} {t : Tree} {n : Node} (h : t.Source n) (built : t.Built text)
    (inner : t.symbol ≠ .nonterminal .program) : n.first? = t.first? := by
  have hshows := h.shows built inner
  rw [Node.first?, Tree.first?, Node.tokens]
  generalize t.tokens = tokens at hshows
  generalize n.leaves = labels at hshows
  induction hshows with
  | nil => rfl
  | @cons token label tokens labels head _ ih =>
    cases hcomment : token.kind.isComment with
    | true =>
      rw [List.filter_cons_of_neg (by simp [head.extra, hcomment]),
        List.filter_cons_of_neg (by simp [hcomment])]
      exact ih
    | false =>
      rw [List.filter_cons_of_pos (by simp [head.extra, hcomment]),
        List.filter_cons_of_pos (by simp [hcomment])]
      simp [head.symbol]

end Tree
end Numscript
