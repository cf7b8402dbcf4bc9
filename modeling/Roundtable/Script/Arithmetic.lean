import Roundtable.Number.Numeral
import Roundtable.Script.Fault
import Roundtable.Script.Heap
/-!
Arithmetic. Integers have 64 bits, and a result that needs more is a fault, never another number.
Division rounds to the floor and the remainder has the sign of the divisor. Two integers stay an
integer except under `/` and under a power with a negative exponent; all other numbers are computed
in binary64. Strings and lists can be joined and repeated, within bounds on the size.
-/

namespace Roundtable.Script

/-- An exact integer result, if 64 bits hold it. -/
def checked (z : Int) : Except RuntimeFault Int64 :=
  (Number.toInt64? z).elim (.error .overflow) .ok

/-- The quotient rounded to the floor, for a divisor that is not zero. Division of words rounds toward
zero, so that a quotient below zero comes out one too high unless it is whole. -/
def floorQuotient (x y : Int64) : Except RuntimeFault Int64 :=
  if x = Int64.minValue ∧ y = -1 then .error .overflow
  else
    let quotient := x / y
    .ok (if x % y ≠ 0 ∧ decide (x < 0) ≠ decide (y < 0) then quotient - 1 else quotient)

/-- The remainder with the sign of the divisor, which is not zero. The remainder of words has the
sign of the dividend. -/
def floorModulus (x y : Int64) : Int64 :=
  let remainder := x % y
  if remainder ≠ 0 ∧ decide (remainder < 0) ≠ decide (y < 0) then remainder + y else remainder

/-- `product * base ^ exponent` by repeated squaring, which stops at the first product that 64 bits do
not hold. No square is taken that is not used. -/
def powerFrom (product base : Int64) (exponent : Nat) : Except RuntimeFault Int64 :=
  if exponent = 0 then .ok product
  else do
    let product ← if exponent % 2 = 0 then .ok product else checked (product.toInt * base.toInt)
    if exponent = 1 then return product
    let square ← checked (base.toInt * base.toInt)
    powerFrom product square (exponent / 2)
termination_by exponent
decreasing_by omega

/-- `x ^ y` for an exponent that is not negative. Powers of one, zero and minus one never grow and take
any exponent; of other bases none with an exponent beyond 32 bits has 64 bits. -/
def intPower (x y : Int64) : Except RuntimeFault Int64 :=
  if x = 1 then .ok 1
  else if x = 0 ∧ 0 < y then .ok 0
  else if x = -1 then .ok (if y % 2 = 0 then 1 else -1)
  else if 4294967296 ≤ y then .error .overflow
  else powerFrom 1 x y.toNatClampNeg

def intOperation (op : BinaryOp) (x y : Int64) : Except RuntimeFault Numeric :=
  match op with
  | .add => .int <$> checked (x.toInt + y.toInt)
  | .sub => .int <$> checked (x.toInt - y.toInt)
  | .mul => .int <$> checked (x.toInt * y.toInt)
  | .div => if y = 0 then .error .divisionByZero else .ok (.float (x.toFloat / y.toFloat))
  | .floorDiv => if y = 0 then .error .divisionByZero else .int <$> floorQuotient x y
  | .mod => if y = 0 then .error .divisionByZero else .ok (.int (floorModulus x y))
  | .pow =>
    if 0 ≤ y then .int <$> intPower x y
    else if x = 0 then .error .divisionByZero
    else .ok (.float (x.toFloat.pow y.toFloat))

/-- The remainder with the sign of the divisor. -/
def floorRemainder (x y : Float) : Float :=
  let rest := Number.remainder x y
  if rest != 0 && decide (rest < 0) != decide (y < 0) then rest + y else rest

def floatOperation (op : BinaryOp) (x y : Float) : Except RuntimeFault Float :=
  match op with
  | .add => .ok (x + y)
  | .sub => .ok (x - y)
  | .mul => .ok (x * y)
  | .div => if y == 0 then .error .divisionByZero else .ok (x / y)
  | .floorDiv => if y == 0 then .error .divisionByZero else .ok (x / y).floor
  | .mod => if y == 0 then .error .divisionByZero else .ok (floorRemainder x y)
  | .pow => if x == 0 && y < 0 then .error .divisionByZero else .ok (x.pow y)

/-- Arithmetic of numbers. -/
def numericOperation (op : BinaryOp) : Numeric → Numeric → Except RuntimeFault Numeric
  | .int x, .int y => intOperation op x y
  | x, y => .float <$> floatOperation op x.toFloat y.toFloat

/-- A number as a value. -/
def Numeric.toValue : Numeric → Value
  | .int value => .int value
  | .float value => .float value

/-- The most bytes that a repeated string has, `2 ^ 28`. -/
def maxStringBytes : Nat := 268435456

/-- The most items that a repeated list or a range has, `2 ^ 24`. -/
def maxItems : Nat := 16777216

/-- How often a value makes a sequence repeat: a negative number as little as zero. -/
def Value.repetitions? : Value → Option Nat
  | .int value => some value.toInt.toNat
  | .bool value => some (if value then 1 else 0)
  | _ => .none

/-- `part` repeated `times` times, by doubling. -/
def repeated {α : Type} [Append α] (empty part : α) (times : Nat) : α :=
  if times = 0 then empty
  else
    let half := repeated empty part (times / 2)
    if times % 2 = 0 then half ++ half else half ++ half ++ part
termination_by times
decreasing_by omega

/-- What an operation makes: a value, or the items of a list that is yet to be placed in the
heap. -/
inductive Made where
  | value (value : Value)
  | list (items : Array Value)

/-- A string repeated. -/
def repeatString (text : String) (times : Nat) : Except RuntimeFault Made :=
  if text.isEmpty ∨ times = 0 then .ok (.value (.str ""))
  else if text.utf8ByteSize * times > maxStringBytes then .error .tooLarge
  else .ok (.value (.str (repeated "" text times)))

/-- The items of a list repeated. -/
def repeatItems (items : Array Value) (times : Nat) : Except RuntimeFault Made :=
  if items.isEmpty ∨ times = 0 then .ok (.list #[])
  else if items.size * times > maxItems then .error .tooLarge
  else .ok (.list (repeated #[] items times))

/-- A sequence on one side of `*` repeated as often as the other side says. -/
def repeatBy? (heap : Heap) (sequence count : Value) : Option (Except RuntimeFault Made) :=
  match sequence, count.repetitions? with
  | .str text, some times => some (repeatString text times)
  | .list id, some times => some (repeatItems (heap.items id) times)
  | _, _ => none

/-- What a binary operator makes of two values. -/
def combine (heap : Heap) (op : BinaryOp) (left right : Value) : Except RuntimeFault Made :=
  let unsupported := .error (.type (.notOperands op left.type right.type))
  match left.numeric?, right.numeric? with
  | some x, some y => (fun z => .value z.toValue) <$> numericOperation op x y
  | _, _ =>
    match op, left, right with
    | .add, .str s, .str t => .ok (.value (.str (s ++ t)))
    | .add, .list i, .list j => .ok (.list (heap.items i ++ heap.items j))
    | .mul, left, right =>
      ((repeatBy? heap left right).or (repeatBy? heap right left)).getD unsupported
    | _, _, _ => unsupported

/-- A value added to what was made before. A list that is added to only grows. -/
def Made.add (heap : Heap) : Made → Value → Except RuntimeFault Made
  | .value total, item => combine heap .add total item
  | .list items, .list id => .ok (.list (items ++ heap.items id))
  | .list _, item => .error (.type (.notOperands .add .list item.type))

/-- What a sign makes of a value. -/
def signed (op : UnaryOp) (operand : Value) : Except RuntimeFault Value :=
  match operand.numeric? with
  | some (.int value) =>
    if op = .neg then .int <$> checked (-value.toInt) else .ok (.int value)
  | some (.float value) => .ok (.float (if op = .neg then -value else value))
  | none => .error (.type (.notOperand op operand.type))

end Roundtable.Script
