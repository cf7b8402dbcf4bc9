import Roundtable.Number.Binary64
/-!
Reading numbers. An integer numeral is a sequence of ASCII digits, perhaps with a sign, whose value
fits in 64 bits. A decimal numeral has a fraction or an exponent or neither, or is one of the words
for infinity and for what is no number; it is read as the nearest binary64 number.
-/

namespace Roundtable.Number

/-- The value of a sequence of decimal digits. -/
def digitsValue (digits : List Char) : Nat :=
  digits.foldl (fun value c => 10 * value + (c.toNat - '0'.toNat)) 0

/-- The integers of 64 bits. -/
def fitsInt64 (z : Int) : Bool :=
  -9223372036854775808 ≤ z && z < 9223372036854775808

/-- The word with value `z`, if it has one. -/
def toInt64? (z : Int) : Option Int64 :=
  if fitsInt64 z then some (Int64.ofInt z) else none

theorem fitsInt64_iff {z : Int} :
    fitsInt64 z = true ↔ -9223372036854775808 ≤ z ∧ z < 9223372036854775808 := by
  simp [fitsInt64]

/-- The word of `z`, if there is one, is the word with that value. -/
theorem toInt_of_toInt64? {z : Int} {value : Int64} (h : toInt64? z = some value) :
    value.toInt = z := by
  unfold toInt64? at h
  split at h
  · rename_i hfits
    obtain ⟨hlow, hhigh⟩ := fitsInt64_iff.1 hfits
    cases h
    exact Int64.toInt_ofInt_of_le hlow hhigh
  · cases h

theorem toInt64?_eq_none {z : Int} (h : toInt64? z = none) :
    z < -9223372036854775808 ∨ 9223372036854775808 ≤ z := by
  unfold toInt64? at h
  split at h
  · cases h
  · rename_i hfits
    rw [fitsInt64_iff] at hfits
    omega

/-- The sign at the head of a numeral, `true` for a minus, and what follows it. -/
def splitSign : List Char → Bool × List Char
  | '-' :: rest => (true, rest)
  | '+' :: rest => (false, rest)
  | text => (false, text)

/-- The value of an integer numeral. -/
def readInt64? (text : List Char) : Option Int64 :=
  let (negative, digits) := splitSign text
  if !digits.isEmpty && digits.all Char.isDigit then
    let size := (digitsValue digits : Int)
    toInt64? (if negative then -size else size)
  else none

/-- The binary64 number nearest to `digits * 10 ^ exponent`. A number whose leading digit stands
above the 400th place, or below the 400th decimal, is out of the range in which that makes a
difference. -/
def nearestFloat (digits : List Char) (exponent : Int) : Float :=
  let significant := digits.dropWhile (· == '0')
  let place := exponent + significant.length
  if significant.isEmpty || place < -400 then 0
  else if place > 400 then 1 / 0
  else
    let size := digitsValue significant
    if exponent < 0 then Float.ofScientific size true (-exponent).toNat
    else Float.ofScientific size false exponent.toNat

/-- The size of an exponent. Once its digits have reached `2 ^ 16`, further ones do not count. -/
def exponentSize (digits : List Char) : Nat :=
  digits.foldl (fun size c => if size < 65536 then 10 * size + (c.toNat - '0'.toNat) else size) 0

/-- The exponent at the end of a decimal numeral. -/
def readExponent? : List Char → Option Int
  | [] => some 0
  | e :: rest =>
    if e = 'e' ∨ e = 'E' then
      let (negative, digits) := splitSign rest
      if !digits.isEmpty && digits.all Char.isDigit then
        let size := (exponentSize digits : Int)
        some (if negative then -size else size)
      else none
    else none

/-- The value of a decimal numeral without its sign. At least one digit stands before the
exponent. -/
def readUnsigned? (text : List Char) : Option Float :=
  let whole := text.takeWhile Char.isDigit
  let (fraction, rest) :=
    match text.dropWhile Char.isDigit with
    | '.' :: after => (after.takeWhile Char.isDigit, after.dropWhile Char.isDigit)
    | after => ([], after)
  if whole.isEmpty && fraction.isEmpty then
    let word := String.ofList (text.map Char.toLower)
    if word = "inf" ∨ word = "infinity" then some (1 / 0)
    else if word = "nan" then some (0 / 0)
    else none
  else
    (readExponent? rest).map fun exponent =>
      nearestFloat (whole ++ fraction) (exponent - fraction.length)

/-- The value of a decimal numeral. -/
def readFloat? (text : List Char) : Option Float :=
  let (negative, size) := splitSign text
  (readUnsigned? size).map fun x => if negative then -x else x

end Roundtable.Number
