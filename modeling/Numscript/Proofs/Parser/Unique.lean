import Numscript.Proofs.Ambiguity
import Numscript.Proofs.Parser.Concatenated
import Numscript.Proofs.Parser.Consume
import Numscript.Proofs.Parser.Copy

/-!
# The tree of a list of tokens

Which tokens a program has, but for its comments, tells its tree without comments: the machine consumes the
tokens of a proper tree whether or not comments stand between them, and twins stay twins.
-/
namespace Numscript

open Automaton (rolesOf)
open Grammar (productions)

namespace Parser

/-- Copies of tokens are consumed on a copy of a stack as the tokens are. -/
theorem Consumes.copies {text text' : List Glyph} {tokens tokens' : List Token} {s s' : Stack} {e : Ending}
    (h : Consumes tokens s e) (below : Stack.Copies text text' s s')
    (copies : List.Forall₂ (Token.Copies text text') tokens tokens') :
    ∃ e', Consumes tokens' s' e' ∧ Ending.Copies text text' e e' := by
  refine h.simulated (fun token token' s s' e below copy settles => ?_) below copies
  obtain ⟨e', hsettles, hcopies⟩ := settles.copies below copy
  refine ⟨e', hsettles, hcopies, ?_⟩
  rintro t rfl
  cases hcopies with
  | pushed hstacks => exact ⟨_, rfl, hstacks⟩

theorem Twin.consumes {tokens : List Token} {s t : Stack} {e e' : Ending} (h : Twin s t)
    (hs : Consumes tokens s e) (ht : Consumes tokens t e') : e.Twin e' := by
  induction hs generalizing t with
  | last settles =>
    cases ht with
    | last settles' => exact h.settles settles settles'
    | more _ rest => cases rest
  | @more token tokens s u e settles rest ih =>
    cases ht with
    | last => cases rest
    | more settles' rest' =>
      cases h.settles settles settles' with
      | pushed twin => exact ih twin rest'

/-- Without its comments a program is proper, unless it is empty. -/
theorem Recognises.proper_sifted {text : List Glyph} {root : Tree} (h : Recognises text root) :
    root.sifted = .node .program .plain [] ∨
      root.sifted.Proper ∧ root.sifted.symbol = .nonterminal .program := by
  obtain ⟨all, rfl, _⟩ := h.found
  obtain ⟨_, _, hroot, hbelow⟩ := h.proper
  obtain ⟨-, rfl, rfl⟩ := Tree.node.inj hroot
  obtain ⟨_, before, children, behind, hroot, comments, hspelt⟩ :=
    h.exists_program Tree.Spelt.leaf Fill.spelt
  obtain ⟨-, rfl, rfl⟩ := Tree.node.inj hroot
  rw [List.forall_mem_append] at comments
  have hsifted : Tree.siftedAll (before ++ children ++ behind) = Tree.siftedAll children := by
    rw [Tree.siftedAll_append, Tree.siftedAll_append, Tree.siftedAll_of_comments comments.1,
      Tree.siftedAll_of_comments comments.2, List.nil_append, List.append_nil]
  rw [hsifted] at hbelow
  rw [Tree.sifted, hsifted]
  generalize ht : Tree.node .program .plain children = t at hspelt
  cases hspelt with
  | leaf => cases ht
  | @node n p _ spelt symbols _ =>
    obtain ⟨rfl, hplain, rfl⟩ := Tree.node.inj ht
    by_cases hp : p = []
    · refine .inl ?_
      have hnone : (Tree.siftedAll children).map Tree.symbol = [] := by
        rw [Tree.symbols_siftedAll, symbols, hp]
        rfl
      rw [List.map_eq_nil_iff.1 hnone]
    · refine .inr ⟨?_, rfl⟩
      rw [hplain]
      exact .node spelt hp (by rw [Tree.symbols_siftedAll, symbols]) nofun hbelow

/-- The trees of two programs with the same tokens, but for comments, are the same without comments. -/
theorem copy_sifted_of_tokens {text text' : List Glyph} {root root' : Tree} (h : parse text = .valid root)
    (h' : parse text' = .valid root')
    (copies : List.Forall₂ (Token.Copies text text') root.sifted.tokens root'.sifted.tokens) :
    Copy text text' root.sifted root'.sifted := by
  have hclean : ¬root.sifted.Lone := fun hlone =>
    not_lone_of_parse h ((recognises_of_parse h).lone_sifted_iff.1 hlone)
  have hclean' : ¬root'.sifted.Lone := fun hlone =>
    not_lone_of_parse h' ((recognises_of_parse h').lone_sifted_iff.1 hlone)
  rcases (recognises_of_parse h).proper_sifted with hnone | ⟨hproper, hprogram⟩
  · rw [hnone, Tree.tokens, Tree.tokensOfAll, List.forall₂_nil_left_iff] at copies
    rcases (recognises_of_parse h').proper_sifted with hnone' | ⟨hproper', _⟩
    · rw [hnone, hnone']
      exact .node .nil
    · obtain ⟨_, _, htokens, _⟩ := hproper'.exists_token
      rw [copies] at htokens
      cases htokens
  · rcases (recognises_of_parse h').proper_sifted with hnone' | ⟨hproper', hprogram'⟩
    · rw [hnone', Tree.tokens, Tree.tokensOfAll, List.forall₂_nil_right_iff] at copies
      obtain ⟨_, _, htokens, _⟩ := hproper.exists_token
      rw [copies] at htokens
      cases htokens
    · let stop : Token := ⟨.endOfText, .origin, .origin⟩
      have hstop : stop.Copies text text' stop := ⟨rfl, by rw [Glyph.between_self, Glyph.between_self]⟩
      obtain ⟨e, hconsumes, hcopies⟩ := (@Consumes.of_program _ stop hproper hprogram rfl).copies
        .nil (List.rel_append copies (.cons hstop .nil))
      obtain _ | hcopy := hcopies
      cases Viable.empty.twin.consumes hconsumes (.of_program hproper' hprogram' rfl) with
      | accepted kin =>
        rwa [kin.eq_of_not_lone (fun hlone => hclean (hcopy.lone hlone)) hclean'] at hcopy

end Parser
end Numscript
