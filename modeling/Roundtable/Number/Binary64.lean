/-!
The finite binary64 numbers as exact values `significand * 2 ^ exponent`, and the operations on
them that scripts need and that are exact or rounded once: the remainder of a division, rounding
halves to even, truncation, and powers by squaring.
-/

namespace Roundtable.Number

/-- The magnitude of a finite binary64 number. -/
structure Binary64 where
  significand : Nat
  exponent : Int
  deriving DecidableEq, Repr

/-- The exponent of the subnormal numbers, the least there is. -/
def Binary64.minExponent : Int := -1074

/-- The leading bit of the significand of a normal number, the 53rd, which is not stored. -/
def Binary64.hiddenBit : Nat := 4503599627370496

/-- The magnitude of `x`, which is taken to be finite. -/
def Binary64.ofFloat (x : Float) : Binary64 :=
  let bits := x.toBits.toNat
  let fraction := bits % hiddenBit
  let biased := bits / hiddenBit % 2048
  if biased = 0 then ⟨fraction, minExponent⟩
  else ⟨fraction + hiddenBit, minExponent + (biased - 1 : Nat)⟩

/-- The sign bit, which tells the zeros apart. -/
def signBit (x : Float) : Bool :=
  x.toBits.toNat.testBit 63

/-- `magnitude` with the sign of `x`. -/
def withSignOf (x magnitude : Float) : Float :=
  if signBit x then -magnitude else magnitude

/-- The part of `x` before the point. -/
def truncate (x : Float) : Float :=
  if x < 0 then x.ceil else x.floor

/-- The integer nearest to `x`, and of two the even one. Taking the floor of the magnitude leaves
an exact remainder; a magnitude from `2 ^ 52` on has no fraction. -/
def roundHalfEven (x : Float) : Float :=
  let size := x.abs
  if size < 4503599627370496 then
    let below := size.floor
    let fraction := size - below
    let even := (below / 2).floor * 2 == below
    withSignOf x <|
      if fraction > 0.5 || (fraction == 0.5 && !even) then below + 1 else below
  else x

/-- What division of `x` by `y` leaves, with the sign of `x`. The remainder of the significands
over a common exponent is a multiple of that exponent's unit below `y`, so it is exact. -/
def remainder (x y : Float) : Float :=
  if x.isFinite && !y.isNaN && y != 0 then
    if y.isFinite then
      let a := Binary64.ofFloat x
      let b := Binary64.ofFloat y
      let unit := min a.exponent b.exponent
      let rest := a.significand * Nat.pow 2 (a.exponent - unit).toNat
        % (b.significand * Nat.pow 2 (b.exponent - unit).toNat)
      withSignOf x ((Float.ofNat rest).scaleB unit)
    else x
  else 0 / 0

/-- `result * base ^ n` in binary64, by squaring: each step rounds its products. -/
def timesPower (result base : Float) (n : Nat) : Float :=
  if n ≤ 1 then (if n = 1 then result * base else result)
  else timesPower (if n % 2 = 1 then result * base else result) (base * base) (n / 2)
termination_by n
decreasing_by omega

/-- `base ^ n` in binary64, by squaring. -/
def power (base : Float) (n : Nat) : Float :=
  timesPower 1 base n

end Roundtable.Number
