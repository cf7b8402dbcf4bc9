import Roundtable.Journal
/-!
The values of scripts. A list is known by its place in the heap, so that names bound to one list
see each other's changes; the participants and the history of the session are live views, which
hold nothing of their own.
-/

namespace Roundtable.Script

/-- The functions that every script can call. -/
inductive Builtin where
  | print | len | str | repr | int | float | bool | type | abs | min | max | sum | round | range
  | list
  deriving DecidableEq, Repr

namespace Builtin

def name : Builtin → String
  | .print => "print"
  | .len => "len"
  | .str => "str"
  | .repr => "repr"
  | .int => "int"
  | .float => "float"
  | .bool => "bool"
  | .type => "type"
  | .abs => "abs"
  | .min => "min"
  | .max => "max"
  | .sum => "sum"
  | .round => "round"
  | .range => "range"
  | .list => "list"

def all : List Builtin :=
  [.print, .len, .str, .repr, .int, .float, .bool, .type, .abs, .min, .max, .sum, .round, .range,
    .list]

/-- The function of a name. -/
def ofName? (word : String) : Option Builtin :=
  all.find? (·.name = word)

end Builtin

/-- The place of a list in the heap. -/
abbrev ListId := Nat

inductive Value where
  | none
  | bool (value : Bool)
  | int (value : Int64)
  | float (value : Float)
  | str (text : String)
  | list (id : ListId)
  | builtin (function : Builtin)
  /-- The participants, in the order in which they joined. -/
  | players
  /-- The history, oldest entry first. -/
  | history
  | entry (entry : Entry)
  deriving DecidableEq

/-- The kinds of values. -/
inductive ValueType where
  | none | bool | int | float | str | list | builtin | players | history | entry
  deriving DecidableEq, Repr

def ValueType.name : ValueType → String
  | .none => "NoneType"
  | .bool => "bool"
  | .int => "int"
  | .float => "float"
  | .str => "str"
  | .list => "list"
  | .builtin => "builtin_function_or_method"
  | .players => "players"
  | .history => "history"
  | .entry => "entry"

def Value.type : Value → ValueType
  | .none => .none
  | .bool _ => .bool
  | .int _ => .int
  | .float _ => .float
  | .str _ => .str
  | .list _ => .list
  | .builtin _ => .builtin
  | .players => .players
  | .history => .history
  | .entry _ => .entry

/-- A value as arithmetic sees it. -/
inductive Numeric where
  | int (value : Int64)
  | float (value : Float)
  deriving DecidableEq

def Numeric.toFloat : Numeric → Float
  | .int value => value.toFloat
  | .float value => value

/-- The number that a value counts as; the truth values are zero and one. -/
def Value.numeric? : Value → Option Numeric
  | .bool value => some (.int (if value then 1 else 0))
  | .int value => some (.int value)
  | .float value => some (.float value)
  | _ => .none

end Roundtable.Script
