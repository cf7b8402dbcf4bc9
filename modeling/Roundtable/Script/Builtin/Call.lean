import Roundtable.Script.Arithmetic
import Roundtable.Script.Builtin.Conversion
import Roundtable.Script.Container
import Roundtable.Script.Value.Printer
/-!
What the functions of the language make of their arguments. They only read the heap and the room:
each gives a value, the items of a new list, or a fault. Writing the line of `print` is left to the
evaluation.
-/

namespace Roundtable.Script

/-- How many words a range has: the distance that it covers in the direction of its step, divided by
the step and rounded up. -/
def rangeCount (start stop step : Int64) : Nat :=
  let distance :=
    if 0 < step then stop.toInt - start.toInt else start.toInt - stop.toInt
  let stride := step.toInt.natAbs
  (distance.toNat + stride - 1) / stride

/-- The items of a range from `current` on, behind those already found. It ends before `stop`, or where
64 bits hold no further word. -/
def rangeFrom (stop step : Int64) (found : Array Value) (current : Int64) : Array Value :=
  if (0 < step ∧ current < stop) ∨ (step < 0 ∧ stop < current) then
    match _next : Number.toInt64? (current.toInt + step.toInt) with
    | some next => rangeFrom stop step (found.push (.int current)) next
    | none => found.push (.int current)
  else found
termination_by (if 0 < step then stop.toInt - current.toInt else current.toInt - stop.toInt).toNat
decreasing_by
  have hnext := Number.toInt_of_toInt64? _next
  simp only [Int64.lt_iff_toInt_lt, Int64.toInt_zero] at *
  split <;> omega

/-- The items of a range. How many they are is told before any of them is made. -/
def rangeItems (start stop step : Int64) : Except RuntimeFault (Array Value) :=
  if step = 0 then .error (.value .zeroStep)
  else if rangeCount start stop step > maxItems then .error .tooLarge
  else .ok (rangeFrom stop step #[] start)

/-- The best of `best` and `items`, where a later one has to be ordered as `better` to take over. -/
def selectFrom (heap : Heap) (sign : String) (better : Ordering) (best : Value) :
    List Value → Except RuntimeFault Value
  | [] => .ok best
  | item :: items =>
    match item.order heap sign best with
    | .error fault => .error fault
    | .ok order => selectFrom heap sign better (if order = some better then item else best) items

/-- The least or the greatest item of a sequence. -/
def extreme (heap : Heap) (function : Builtin) (sign : String) (better : Ordering) :
    List Value → Except RuntimeFault Value
  | [] => .error (.value (.emptySequence function))
  | first :: items => selectFrom heap sign better first items

/-- The items that `min` and `max` choose from: those of a single argument, or the arguments. -/
def candidates (room : Room) (heap : Heap) (function : Builtin) :
    List Value → Except RuntimeFault (List Value)
  | [] => .error (.type (.nothingToCompare function))
  | [iterable] => Array.toList <$> iterable.iterate room heap
  | arguments => .ok arguments

/-- `start` and the items of `iterable` added up from the left. -/
def sumItems (room : Room) (heap : Heap) (iterable start : Value) : Except RuntimeFault Made :=
  if start.type = .str then .error (.type .sumOfStrings)
  else do (← iterable.iterate room heap).foldlM (Made.add heap) (.value start)

/-- The number of decimals that the second argument of `round` asks for. -/
def roundingDigits : Value → Except RuntimeFault (Option Int)
  | .none => .ok none
  | value => (some ·.toInt) <$> value.toInt

/-- `number` rounded to an integer, or to the decimals that `digits` asks for. -/
def roundValue (number digits : Value) : Except RuntimeFault Value :=
  match number.numeric? with
  | none => .error (.type (.notRoundable number.type))
  | some x => do roundNumber x (← roundingDigits digits)

namespace Builtin

/-- How many arguments a function takes, where its name and the bounds are all that a fault
tells. -/
def arity : Builtin → Arity
  | .len | .repr | .type | .abs => ⟨1, 1⟩
  | .str | .int | .float | .bool | .list => ⟨0, 1⟩
  | .sum | .round => ⟨1, 2⟩
  | .range => ⟨1, 3⟩
  | .print | .min | .max => ⟨0, 0⟩

/-- What a function makes of its arguments. -/
def result (room : Room) (heap : Heap) (function : Builtin) (arguments : List Value) :
    Except RuntimeFault Made :=
  match function, arguments with
  | .print, _ => .ok (.value .none)
  | .len, [value] =>
    match value.length? room heap with
    | some length => (.value <| .int ·) <$> checked length
    | none => .error (.type (.noLength value.type))
  | .str, [] => .ok (.value (.str ""))
  | .str, [value] => .ok (.value (.str (value.display room heap)))
  | .repr, [value] => .ok (.value (.str (value.repr room heap)))
  | .int, [] => .ok (.value (.int 0))
  | .int, [value] => (.value <| .int ·) <$> value.convertToInt
  | .float, [] => .ok (.value (.float 0))
  | .float, [value] => (.value <| .float ·) <$> value.convertToFloat
  | .bool, [] => .ok (.value (.bool false))
  | .bool, [value] => .ok (.value (.bool (value.isTruthy room heap)))
  | .type, [value] => .ok (.value (.str ("<class '" ++ value.type.name ++ "'>")))
  | .abs, [value] =>
    match value.numeric? with
    | some (.int number) => (.value <| .int ·) <$> checked number.toInt.natAbs
    | some (.float number) => .ok (.value (.float number.abs))
    | none => .error (.type (.noMagnitude value.type))
  | .min, arguments => do
    return .value (← extreme heap .min "<" .lt (← candidates room heap .min arguments))
  | .max, arguments => do
    return .value (← extreme heap .max ">" .gt (← candidates room heap .max arguments))
  | .sum, [iterable] => sumItems room heap iterable (.int 0)
  | .sum, [iterable, start] => sumItems room heap iterable start
  | .round, [number] => .value <$> roundValue number .none
  | .round, [number, digits] => .value <$> roundValue number digits
  | .range, [stop] => do return .list (← rangeItems 0 (← stop.toInt) 1)
  | .range, [start, stop] => do return .list (← rangeItems (← start.toInt) (← stop.toInt) 1)
  | .range, [start, stop, step] => do
    return .list (← rangeItems (← start.toInt) (← stop.toInt) (← step.toInt))
  | .list, [] => .ok (.list #[])
  | .list, [iterable] => .list <$> iterable.iterate room heap
  | function, arguments => .error (.type (.wrongArity function function.arity arguments.length))

end Builtin

/-- The line that `print` writes. -/
def printedLine (room : Room) (heap : Heap) (arguments : List Value) : String :=
  " ".intercalate (arguments.map (·.display room heap)) ++ "\n"

end Roundtable.Script
