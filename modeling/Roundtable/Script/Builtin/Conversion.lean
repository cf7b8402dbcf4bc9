import Roundtable.Number.Numeral
import Roundtable.Script.Fault
import Roundtable.Text.Blank
import Roundtable.Text.Quoted
/-!
Conversions between numbers and from text: truncation to an integer, numerals with blanks around
them, and rounding to a number of decimals.
-/

namespace Roundtable.Script

/-- The integer before the point of `x`, if 64 bits hold it. -/
def floatToInt (x : Float) : Except RuntimeFault Int64 :=
  if x.isFinite then
    let whole := Number.truncate x
    if whole < -9223372036854775808 || whole ≥ 9223372036854775808 then .error .overflow
    else .ok whole.toInt64
  else .error (.value (.notFinite x))

/-- A value taken as an integer. -/
def Value.toInt : Value → Except RuntimeFault Int64
  | .int value => .ok value
  | .bool value => .ok (if value then 1 else 0)
  | value => .error (.type (.notInteger value.type))

/-- The integer that a value converts to. -/
def Value.convertToInt : Value → Except RuntimeFault Int64
  | .int value => .ok value
  | .bool value => .ok (if value then 1 else 0)
  | .float value => floatToInt value
  | .str text =>
    (Number.readInt64? (Text.trim text).toList).elim
      (.error (.value (.notIntNumeral (Text.quoted text)))) .ok
  | value => .error (.type (.notIntArgument value.type))

/-- The float that a value converts to. -/
def Value.convertToFloat (value : Value) : Except RuntimeFault Float :=
  match value.numeric?, value with
  | some number, _ => .ok number.toFloat
  | _, .str text =>
    (Number.readFloat? (Text.trim text).toList).elim
      (.error (.value (.notFloatNumeral (Text.quoted text)))) .ok
  | _, value => .error (.type (.notFloatArgument value.type))

/-- `x` rounded to `digits` decimals, by scaling with a power of ten that is itself computed in
binary64. Beyond the powers that binary64 holds nothing is left to round. -/
def roundDecimals (x : Float) (digits : Int) : Float :=
  let bounded := max (-308) (min digits 308)
  let scale := Number.power 10 bounded.natAbs
  if 0 ≤ bounded then
    let scaled := x * scale
    if scaled.isFinite then Number.roundHalfEven scaled / scale else x
  else Number.roundHalfEven (x / scale) * scale

/-- A number rounded to an integer, or to the given number of decimals. The latter keeps the type of
the number, and an integer has no decimals to lose. -/
def roundNumber : Numeric → Option Int → Except RuntimeFault Value
  | .int value, none => .ok (.int value)
  | .float value, none => .int <$> floatToInt (Number.roundHalfEven value)
  | .int value, some digits =>
    if 0 ≤ digits then .ok (.int value)
    else .int <$> floatToInt (roundDecimals value.toFloat digits)
  | .float value, some digits => .ok (.float (roundDecimals value digits))

end Roundtable.Script
