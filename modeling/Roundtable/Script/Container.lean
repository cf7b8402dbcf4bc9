import Roundtable.Script.Value.Order
/-!
Strings, lists and the two live views as containers: their length, their items, the item at a
position, and what is in them. Positions count from the front, and negative ones from the end.
-/

namespace Roundtable.Script

/-- A character as a string. -/
def Value.ofChar (c : Char) : Value :=
  .str (String.singleton c)

/-- The position in a sequence of `length` items that an index means. -/
def position? (index : Int) (length : Nat) : Option Nat :=
  let position := if index < 0 then index + length else index
  if 0 ≤ position ∧ position < length then some position.toNat else none

namespace Value

/-- The number of items, for values that have items. -/
def length? (room : Room) (heap : Heap) : Value → Option Nat
  | .str text => some text.length
  | .list id => some (heap.items id).size
  | .players => some room.roster.members.length
  | .history => some room.journal.length
  | _ => .none

/-- The items of a value. -/
def iterate (room : Room) (heap : Heap) : Value → Except RuntimeFault (Array Value)
  | .str text => .ok (text.toList.toArray.map ofChar)
  | .list id => .ok (heap.items id)
  | .players => .ok (room.roster.members.toArray.map .str)
  | .history => .ok (room.journal.entries.map .entry)
  | value => .error (.type (.notIterable value.type))

/-- Whether a value counts as true. -/
def isTruthy (room : Room) (heap : Heap) : Value → Bool
  | .none => false
  | .bool value => value
  | .int value => value ≠ 0
  | .float value => value != 0
  | .str text => !text.isEmpty
  | .list id => !(heap.items id).isEmpty
  | .builtin _ => true
  | .players => !room.roster.members.isEmpty
  | .history => !room.journal.entries.isEmpty
  | .entry _ => true

/-- The index into `container` that a value is. -/
def toIndex (container : ValueType) : Value → Except RuntimeFault Int
  | .int value => .ok value.toInt
  | .bool value => .ok (if value then 1 else 0)
  | value => .error (.type (.notIndex container value.type))

/-- The item at a position that is counted from the front. -/
def item? (room : Room) (heap : Heap) (position : Nat) : Value → Option Value
  | .str text => text.toList[position]?.map ofChar
  | .list id => (heap.items id)[position]?
  | .players => room.roster.members[position]?.map .str
  | .history => (room.journal.get? position).map .entry
  | _ => .none

/-- The item of a container at an index. -/
def itemAt (room : Room) (heap : Heap) (container index : Value) : Except RuntimeFault Value :=
  match container.length? room heap with
  | .none => .error (.type (.notSubscriptable container.type))
  | some length =>
    match index.toIndex container.type with
    | .error fault => .error fault
    | .ok index =>
      ((position? index length).bind fun position => container.item? room heap position).elim
        (.error (.index (.read container.type))) .ok

/-- The place in the heap at which an assignment to an item of `container` is made. -/
def assignmentPlace (heap : Heap) (container index : Value) :
    Except RuntimeFault (ListId × Nat) :=
  match container with
  | .list id =>
    match index.toIndex .list with
    | .error fault => .error fault
    | .ok index =>
      (position? index (heap.items id).size).elim (.error (.index .assignment))
        fun position => .ok (id, position)
  | container => .error (.type (.notItemAssignable container.type))

/-- Whether one of the items equals `value`. The first item that cannot be compared is a fault,
unless an equal one stands before it. -/
def isAmong (heap : Heap) (value : Value) : List Value → Except RuntimeFault Bool
  | [] => .ok false
  | item :: items =>
    match item.equals heap value with
    | .ok false => isAmong heap value items
    | result => result

/-- Whether `value` is in `container`. A string contains its substrings, and the views contain
names and entries. -/
def isIn (room : Room) (heap : Heap) (container value : Value) : Except RuntimeFault Bool :=
  match container, value with
  | .str text, .str part => .ok (text.contains part)
  | .str _, value => .error (.type (.notSubstring value.type))
  | .list id, value => isAmong heap value (heap.items id).toList
  | .players, .str name => .ok (room.roster.isMember name)
  | .players, _ => .ok false
  | .history, .entry e => .ok (room.journal.entries.contains e)
  | .history, _ => .ok false
  | container, _ => .error (.type (.notContainer container.type))

/-- A part of a value that has a name. -/
def attributeOf (object : Value) (name : String) : Except RuntimeFault Value :=
  match object with
  | .entry e =>
    if name = "author" then .ok (.str e.author)
    else if name = "code" then .ok (.str e.code)
    else if name = "time" then .ok (.str e.time)
    else .error (.attribute .entry name)
  | object => .error (.attribute object.type name)

/-- Whether the comparison `op` holds between two values. -/
def compares (room : Room) (heap : Heap) (op : CompareOp) (left right : Value) :
    Except RuntimeFault Bool :=
  match op with
  | .eq => left.equals heap right
  | .ne => (!·) <$> left.equals heap right
  | .lt => (· == some .lt) <$> left.order heap op.text right
  | .le => (fun order => order == some .lt || order == some .eq) <$> left.order heap op.text right
  | .gt => (· == some .gt) <$> left.order heap op.text right
  | .ge => (fun order => order == some .gt || order == some .eq) <$> left.order heap op.text right
  | .in => right.isIn room heap left
  | .notIn => (!·) <$> right.isIn room heap left

end Value

end Roundtable.Script
