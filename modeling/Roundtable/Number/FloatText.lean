import Roundtable.Number.Shortest
/-!
How a binary64 number is written. The digits are always the shortest ones; the two texts of a
number, as a value and as a source token, differ in when they take an exponent and when a whole
number keeps a zero after the point.
-/

namespace Roundtable.Number

/-- The decisions of a number format, by the place of the leading digit. -/
structure FloatFormat where
  /-- Numbers with their leading digit in these places are written without an exponent. -/
  positional : Int → Bool
  /-- Whole numbers with their leading digit below this place end in `.0`. -/
  pointZeroBelow : Option Int

/-- The text of a value: never an exponent, and a whole number from `10 ^ 16` on has no point. -/
def FloatFormat.value : FloatFormat := ⟨fun _ => true, some 16⟩

/-- The text of a token: an exponent from `10 ^ 16` on and below `10 ^ -4`, else a point. -/
def FloatFormat.token : FloatFormat := ⟨fun place => -4 ≤ place && place < 16, none⟩

/-- Digits with the point after the first. -/
def scientificText (digits : List Char) (place : Int) : List Char :=
  let fraction := digits.drop 1
  digits.take 1 ++ (if fraction.isEmpty then [] else '.' :: fraction) ++ 'e' :: (toString place).toList

/-- Digits of a number whose leading digit stands at `place`, filled up with zeros to the point. -/
def positionalText (digits : List Char) (place : Int) (pointZero : Bool) : List Char :=
  if place < 0 then
    ['0', '.'] ++ List.replicate (-place - 1).toNat '0' ++ digits
  else
    let whole := place.toNat + 1
    let fraction := digits.drop whole
    digits.take whole ++ List.replicate (whole - digits.length) '0'
      ++ (if fraction.isEmpty then (if pointZero then ['.', '0'] else []) else '.' :: fraction)

/-- The text of a finite magnitude. -/
def FloatFormat.magnitude (format : FloatFormat) (x : Binary64) : List Char :=
  let d := shortest x
  let digits := Nat.toDigits 10 d.digits
  let place := d.exponent + digits.length - 1
  if format.positional place then
    positionalText digits place (format.pointZeroBelow.all (place < ·))
  else scientificText digits place

/-- The text of a number. -/
def FloatFormat.render (format : FloatFormat) (x : Float) : String :=
  if x.isNaN then "nan"
  else if x.isInf then (if x > 0 then "inf" else "-inf")
  else
    let text := format.magnitude (Binary64.ofFloat x)
    String.ofList (if signBit x then '-' :: text else text)

end Roundtable.Number
