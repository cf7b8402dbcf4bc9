import Roundtable.Proofs.Script.Grammar.Expressions
/-!
The levels of nesting that a tree takes however it is written. Brackets that a text adds take more of
them, so this is a lower bound, and tokens whose tree alone takes too many are always too deep.
-/

namespace Roundtable.Script

open Roundtable.Script.Parser

mutual

/-- The levels below that of the expression itself. -/
def Expr.levels : Expr → Nat
  | .list items => Expr.itemLevels items
  | .unary _ operand => operand.levels + 1
  | .binary op left right =>
    max left.levels (if op = .pow then right.levels + 1 else right.levels)
  | .compare first rest => max first.levels (Expr.chainLevels rest)
  | .logical _ left right => max left.levels right.levels
  | .call callee arguments => max callee.levels (Expr.itemLevels arguments)
  | .index container position => max container.levels (position.levels + 1)
  | .attribute object _ => object.levels
  | _ => 0
termination_by structural expr => expr

/-- The levels of items, each of which takes one itself. -/
def Expr.itemLevels : List Expr → Nat
  | [] => 0
  | item :: rest => max (item.levels + 1) (Expr.itemLevels rest)
termination_by structural items => items

/-- The levels of the further operands of a comparison. -/
def Expr.chainLevels : List (CompareOp × Expr) → Nat
  | [] => 0
  | (_, operand) :: rest => max operand.levels (Expr.chainLevels rest)
termination_by structural chain => chain

end

/-- The levels that a phrase with this value takes. -/
def Phrase.levels : (phrase : Phrase) → phrase.Value → Nat
  | .nested _, e => Expr.levels e + 1
  | .compared, (first, rest) => max first.levels (Expr.chainLevels rest)
  | .items, es => Expr.itemLevels es
  | .disjunction, e | .conjunction, e | .negation, e | .comparison, e | .sum, e | .term, e
  | .signed, e | .power, e | .postfixed, e | .atom, e => Expr.levels e

theorem Expr.chainLevels_concat (chain : List (CompareOp × Expr)) (op : CompareOp) (e : Expr) :
    Expr.chainLevels (chain ++ [(op, e)]) = max (Expr.chainLevels chain) e.levels := by
  induction chain with
  | nil => simp [Expr.chainLevels]
  | cons link rest ih =>
      obtain ⟨sign, operand⟩ := link
      rw [List.cons_append, Expr.chainLevels, Expr.chainLevels, ih, Nat.max_assoc]

theorem Expr.levels_compared (first : Expr) (rest : List (CompareOp × Expr)) :
    (first.compared rest).levels = max first.levels (Expr.chainLevels rest) := by
  cases rest with
  | nil => exact (Nat.max_zero _).symm
  | cons link rest => rfl

theorem Literal.levels_eq {token : Token} {e : Expr} (h : Literal token e) : e.levels = 0 := by
  cases h <;> rfl

/-- A derivation takes at least the levels of the tree that it builds. -/
theorem Derives.levels_le {n : Nat} {phrase : Phrase} {w : List Token} {value : phrase.Value}
    (h : Derives n phrase w value) : phrase.levels value ≤ n := by
  induction h with
  | literal hliteral => exact Nat.le_trans (Nat.le_of_eq hliteral.levels_eq) (Nat.zero_le _)
  | noItems => exact Nat.zero_le _
  | expression _ ih | negated _ ih | signed _ ih => exact Nat.succ_le_succ ih
  | or _ _ iha ihb | and _ _ iha ihb => exact Nat.max_le.2 ⟨iha, ihb⟩
  | pow _ _ iha ihb | call _ _ iha ihb | index _ _ iha ihb | item _ _ iha ihb =>
      exact Nat.max_le.2 ⟨iha, ihb⟩
  | @sum _ _ _ _ _ op hop _ _ iha ihb =>
      have hpow : op ≠ .pow := by rintro rfl; exact absurd hop (by decide)
      refine Nat.max_le.2 ⟨iha, ?_⟩
      rw [if_neg hpow]
      exact ihb
  | @product _ _ _ _ _ op hop _ _ iha ihb =>
      have hpow : op ≠ .pow := by rintro rfl; exact absurd hop (by decide)
      refine Nat.max_le.2 ⟨iha, ?_⟩
      rw [if_neg hpow]
      exact ihb
  | compared _ ih =>
      show Expr.levels _ ≤ _
      rw [Expr.levels_compared]
      exact ih
  | first _ ih => exact Nat.max_le.2 ⟨ih, Nat.zero_le _⟩
  | further _ _ iha ihb =>
      show max _ _ ≤ _
      rw [Expr.chainLevels_concat, ← Nat.max_assoc]
      exact Nat.max_le.2 ⟨iha, ihb⟩
  | lastItem _ ih => exact Nat.max_le.2 ⟨ih, Nat.zero_le _⟩
  | not _ ih | sign _ _ ih | member _ ih | list _ ih => exact ih
  | parentheses _ ih => exact Nat.le_of_succ_le ih
  | conjunction _ ih | negation _ ih | comparison _ ih | term _ ih | unary _ ih | power _ ih
  | postfixed _ ih | atom _ ih => exact ih

/-- Tokens are too deep if their tree takes more levels than there are. -/
theorem Expr.ofTokens_of_levels {n : Nat} {w : List Token} {e : Expr}
    (h : Derives n .expression w e) (hdeep : maxNesting ≤ e.levels) :
    Expr.ofTokens w = .error .tooDeep := by
  rcases h.reads maxNesting [] Nat.zero_lt_one with hread | ⟨-, hread⟩
  · obtain ⟨v, hv, hderives⟩ := nested_sound maxNesting .expression hread
    rw [List.append_nil, List.append_nil] at hv
    subst hv
    have hlevels := hderives.levels_le
    exact absurd hlevels (Nat.not_le_of_lt (Nat.lt_succ_of_le hdeep))
  · rw [List.append_nil] at hread
    unfold Expr.ofTokens expression
    rw [hread]

end Roundtable.Script
