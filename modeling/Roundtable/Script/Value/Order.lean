import Roundtable.Script.Fault
import Roundtable.Script.Heap
/-!
Equality and order of values. Numbers compare by value whatever their type, lists item by item, and
everything else only with its own kind. Lists may contain themselves, so a comparison follows at
most two hundred levels of nesting and is at fault beyond them, unless it meets one and the same
list on both sides, which is equal to itself.
-/

namespace Roundtable.Script

/-- How many levels of nested lists a comparison follows. -/
def maxCompareDepth : Nat := 200

/-- Whether two numbers are equal. Mixed ones, and floats, are compared as floats. -/
def Numeric.equals : Numeric → Numeric → Bool
  | .int x, .int y => x = y
  | x, y => x.toFloat == y.toFloat

/-- How two numbers are ordered; what is no number is not ordered with anything. -/
def Numeric.order? : Numeric → Numeric → Option Ordering
  | .int x, .int y => some (compare x y)
  | x, y =>
    if x.toFloat < y.toFloat then some .lt
    else if x.toFloat == y.toFloat then some .eq
    else if x.toFloat > y.toFloat then some .gt
    else none

/-- Whether the items of two sequences are equal, as far as the shorter one goes. -/
def itemsEqual (equal : Value → Value → Except RuntimeFault Bool) :
    List Value → List Value → Except RuntimeFault Bool
  | a :: left, b :: right =>
    match equal a b with
    | .ok true => itemsEqual equal left right
    | result => result
  | _, _ => .ok true

/-- How two sequences are ordered: by the first items that are not equal, else by their lengths. -/
def itemsOrder (equal : Value → Value → Except RuntimeFault Bool)
    (order : Value → Value → Except RuntimeFault (Option Ordering)) :
    List Value → List Value → Except RuntimeFault (Option Ordering)
  | a :: left, b :: right =>
    match equal a b with
    | .error fault => .error fault
    | .ok true => itemsOrder equal order left right
    | .ok false => order a b
  | left, right => .ok (some (compare left.length right.length))

namespace Value

/-- Equality that follows the given number of levels of nested lists. -/
def equalsWithin (heap : Heap) (levels : Nat) (a b : Value) : Except RuntimeFault Bool :=
  match a.numeric?, b.numeric? with
  | some x, some y => .ok (x.equals y)
  | _, _ =>
    match a, b with
    | .none, .none => .ok true
    | .str s, .str t => .ok (s = t)
    | .list i, .list j =>
      if i = j then .ok true
      else
        match levels with
        | 0 => .error .recursionLimit
        | levels + 1 =>
          if (heap.items i).size = (heap.items j).size then
            itemsEqual (equalsWithin heap levels) (heap.items i).toList (heap.items j).toList
          else .ok false
    | .builtin f, .builtin g => .ok (f = g)
    | .players, .players => .ok true
    | .history, .history => .ok true
    | .entry e, .entry f => .ok (e = f)
    | _, _ => .ok false

/-- Whether two values are equal. -/
def equals (heap : Heap) (a b : Value) : Except RuntimeFault Bool :=
  equalsWithin heap maxCompareDepth a b

/-- Order that follows the given number of levels of nested lists, for the comparison `sign`. -/
def orderWithin (heap : Heap) (sign : String) (levels : Nat) (a b : Value) :
    Except RuntimeFault (Option Ordering) :=
  match a.numeric?, b.numeric? with
  | some x, some y => .ok (x.order? y)
  | _, _ =>
    match a, b with
    | .str s, .str t => .ok (some (compare s t))
    | .list i, .list j =>
      match levels with
      | 0 => .error .recursionLimit
      | levels + 1 =>
        itemsOrder (equalsWithin heap levels) (orderWithin heap sign levels)
          (heap.items i).toList (heap.items j).toList
    | a, b => .error (.type (.notOrdered sign a.type b.type))

/-- How two values are ordered, if they are. -/
def order (heap : Heap) (sign : String) (a b : Value) : Except RuntimeFault (Option Ordering) :=
  orderWithin heap sign maxCompareDepth a b

end Value

end Roundtable.Script
