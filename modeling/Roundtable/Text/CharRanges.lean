/-!
Sets of characters given by ranges of code points, the form in which the character properties of
Unicode 17 stand in the modules beside this one.
-/

namespace Roundtable.Text

/-- Inclusive ranges of code points. -/
abbrev CharRanges := Array (Nat × Nat)

/-- A character belongs to the ranges if one of them reaches around its code point. -/
def CharRanges.has (ranges : CharRanges) (c : Char) : Bool :=
  ranges.any fun range => range.1 ≤ c.toNat && c.toNat ≤ range.2

theorem CharRanges.has_iff (ranges : CharRanges) (c : Char) :
    ranges.has c = true ↔ ∃ range ∈ ranges, range.1 ≤ c.toNat ∧ c.toNat ≤ range.2 := by
  simp only [CharRanges.has, Array.any_eq_true', Bool.and_eq_true, decide_eq_true_eq]

end Roundtable.Text
