import Roundtable.Number.Binary64
/-!
The shortest decimal that reads back as a given binary64 number. The reals that round to the number
form an interval around it; of the decimal grids, from one digit on, the first with a point in that
interval is taken, and on it the point nearest to the number.
-/

namespace Roundtable.Number

/-- The decimal number `digits * 10 ^ exponent`. -/
structure Decimal where
  digits : Nat
  exponent : Int
  deriving DecidableEq, Repr

/-- The position of the leading digit of a number that is not zero: `10 ^ place ≤ x < 10 ^ (place
+ 1)`. The position of the leading bit gives it up to one, which a comparison settles. -/
def leadingPlace (x : Binary64) : Int :=
  let estimate := Int.fdiv ((x.exponent + Nat.log2 x.significand) * 30103) 100000
  let next := estimate + 1
  if Nat.pow 10 next.toNat * Nat.pow 2 (-x.exponent).toNat
      ≤ x.significand * Nat.pow 2 x.exponent.toNat * Nat.pow 10 (-next).toNat then next
  else estimate

/-- The numbers that round to `x` in quarters of the unit of its last bit: `x` is `4 * significand`,
the neighbour above ends the interval half a unit away, and so does the one below unless `x` is a
power of two, whose lower neighbour is nearer. -/
def lowerQuarters (x : Binary64) : Nat :=
  if x.significand = Binary64.hiddenBit ∧ x.exponent > Binary64.minExponent then 4 * x.significand - 1
  else 4 * x.significand - 2

/-- The point of the grid `10 ^ place` that lies in the interval of `x` and is nearest to `x`, if
there is one; of two as near, the upper. The ends belong to the interval if the significand is
even. -/
def onGrid? (x : Binary64) (place : Int) : Option Nat :=
  let scale := Nat.pow 2 (x.exponent - 2).toNat * Nat.pow 10 (-place).toNat
  let unit := Nat.pow 10 place.toNat * Nat.pow 2 (2 - x.exponent).toNat
  let exact := 4 * x.significand * scale
  let closed := x.significand % 2 = 0
  let lower := lowerQuarters x * scale
  let upper := (4 * x.significand + 2) * scale
  let below := exact / unit
  let belowFits := if closed then lower ≤ below * unit else lower < below * unit
  let aboveFits := if closed then (below + 1) * unit ≤ upper else (below + 1) * unit < upper
  if belowFits then
    if aboveFits ∧ (below + 1) * unit - exact ≤ exact - below * unit then some (below + 1)
    else some below
  else if aboveFits then some (below + 1)
  else none

/-- The first grid with a point for `x` among the next `count` ones, from `place` down. -/
def firstGrid (x : Binary64) (place : Int) : Nat → Decimal
  | 0 => ⟨(onGrid? x place).getD 0, place⟩
  | count + 1 =>
    match onGrid? x place with
    | some digits => ⟨digits, place⟩
    | none => firstGrid x (place - 1) count

/-- The decimal without zeros at the end of its digits. -/
def Decimal.stripZeros (d : Decimal) : Decimal :=
  if h : d.digits ≠ 0 ∧ d.digits % 10 = 0 then
    stripZeros ⟨d.digits / 10, d.exponent + 1⟩
  else d
termination_by d.digits
decreasing_by
  obtain ⟨positive, _⟩ := h
  exact Nat.div_lt_self (Nat.pos_of_ne_zero positive) (by decide)

/-- The shortest decimal that reads back as `x`. Seventeen digits always do. -/
def shortest (x : Binary64) : Decimal :=
  if x.significand = 0 then ⟨0, 0⟩
  else (firstGrid x (leadingPlace x) 16).stripZeros

end Roundtable.Number
