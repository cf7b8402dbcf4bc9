import Mathlib.Data.List.TakeWhile
import Roundtable.Proofs.Script.Grammar.Completeness
/-!
Which tokens are an expression. Those that the grammar derives within the hundred levels, with line
ends behind them, and nothing else; the expression is the one tree that they have.
-/

namespace Roundtable.Script

open Roundtable.Script.Parser

variable {n m : Nat} {w tokens : List Token} {e e' : Expr}

/-- Tokens have at most one tree, however many levels a derivation may take. -/
theorem Derives.unique (h : Derives n .expression w e) (h' : Derives m .expression w e') :
    e = e' := by
  -- With the greater number of levels neither derivation is cut short.
  have hread := h.reads (max n m) [] Nat.zero_lt_one
  have hread' := h'.reads (max n m) [] Nat.zero_lt_one
  rcases hread with hread | ⟨hdeep, -⟩
  · rcases hread' with hread' | ⟨hdeep, -⟩
    · rw [hread] at hread'
      cases hread'
      rfl
    · omega
  · omega

/-- More levels derive no less. -/
theorem Derives.mono (h : Derives n .expression w e) (hle : n ≤ m) : Derives m .expression w e := by
  rcases h.reads m [] Nat.zero_lt_one with hread | ⟨hdeep, -⟩
  · obtain ⟨v, hv, hderives⟩ := nested_sound m .expression hread
    rwa [List.append_cancel_right hv]
  · omega

theorem eq_replicate_newline {rest : List Token} (h : rest.dropWhile (· = .newline) = []) :
    ∃ k, rest = List.replicate k .newline := by
  refine ⟨rest.length, List.eq_replicate_of_mem fun token htoken => ?_⟩
  have hall := List.dropWhile_eq_nil_iff.1 h
  exact of_decide_eq_true (hall token htoken)

theorem Expr.ofTokens_of_run {k : Nat}
    (h : expression.run tokens = .ok (e, List.replicate k .newline)) :
    Expr.ofTokens tokens = .ok e := by
  unfold Expr.ofTokens
  rw [h]
  have hnone : (List.replicate k Token.newline).dropWhile (· = .newline) = [] := by
    rw [List.dropWhile_eq_nil_iff]
    intro token htoken
    exact decide_eq_true (List.eq_of_mem_replicate htoken)
  simp only [hnone]

theorem Expr.run_of_ofTokens (h : Expr.ofTokens tokens = .ok e) :
    ∃ k, expression.run tokens = .ok (e, List.replicate k .newline) := by
  unfold Expr.ofTokens at h
  split at h
  · cases h
  · rename_i value rest hread
    split at h
    · rename_i hnone
      cases h
      obtain ⟨k, hrest⟩ := eq_replicate_newline hnone
      exact ⟨k, by rw [hread, hrest]⟩
    · cases h

theorem joint_newlines (k : Nat) : joint (List.replicate k .newline) = 0 := by
  cases k <;> rfl

/-- Tokens are read as an expression if and only if, but for line ends at their end, the grammar
derives it within the levels there are; tokens that it derives only with more of them are reported
as too deep; and there is never more than one tree. -/
theorem Expr.ofTokens_grammar (tokens : List Token) :
    (∀ e, Expr.ofTokens tokens = .ok e ↔
      ∃ w k, tokens = w ++ List.replicate k .newline ∧ Derives maxNesting .expression w e) ∧
    (∀ w k e n, tokens = w ++ List.replicate k .newline → Derives n .expression w e →
      ¬Derives maxNesting .expression w e → Expr.ofTokens tokens = .error .tooDeep) ∧
    ∀ w e e' n m, Derives n .expression w e → Derives m .expression w e' → e = e' := by
  refine ⟨fun e => ⟨fun h => ?_, ?_⟩, ?_, fun w e e' n m h h' => h.unique h'⟩
  · obtain ⟨k, hrun⟩ := Expr.run_of_ofTokens h
    obtain ⟨w, htokens, hw⟩ := nested_sound maxNesting .expression hrun
    exact ⟨w, k, htokens, hw⟩
  · rintro ⟨w, k, rfl, hw⟩
    have hread := hw.reads maxNesting (List.replicate k .newline) (by rw [joint_newlines]; decide)
    rcases hread with hread | ⟨hdeep, -⟩
    · exact Expr.ofTokens_of_run hread
    · exact absurd hdeep (Nat.lt_irrefl _)
  · rintro w k e n rfl hw hdeep
    have hread := hw.reads maxNesting (List.replicate k .newline) (by rw [joint_newlines]; decide)
    rcases hread with hread | ⟨-, hread⟩
    · obtain ⟨v, hv, hderives⟩ := nested_sound maxNesting .expression hread
      rw [List.append_cancel_right hv] at hdeep
      exact absurd hderives hdeep
    · unfold Expr.ofTokens expression
      rw [hread]

end Roundtable.Script
