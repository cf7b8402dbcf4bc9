import Roundtable.Number.FloatText
import Roundtable.Output
import Roundtable.Script.Program.Parser
import Roundtable.Script.Token.Lexer
import Roundtable.Script.Value
/-!
What can go wrong in a script: while its text is read, while its tokens are parsed, and while it
runs. A fault is a cause with the values that matter; its wording is in one function for each kind.
-/

namespace Roundtable.Script

/-- How many arguments a function takes. -/
structure Arity where
  least : Nat
  most : Nat
  deriving DecidableEq, Repr

/-- An operation that a value of its type does not have. -/
inductive TypeFault where
  | notIterable (type : ValueType)
  | notOperand (op : UnaryOp) (type : ValueType)
  | notOperands (op : BinaryOp) (left right : ValueType)
  /-- Two values without an order; `sign` is the comparison that asked for one. -/
  | notOrdered (sign : String) (left right : ValueType)
  | notContainer (type : ValueType)
  /-- Something else than a string is looked for in a string. -/
  | notSubstring (type : ValueType)
  | notIndex (container index : ValueType)
  | notSubscriptable (type : ValueType)
  | notItemAssignable (type : ValueType)
  | notCallable (type : ValueType)
  | noLength (type : ValueType)
  | noMagnitude (type : ValueType)
  | notRoundable (type : ValueType)
  | notInteger (type : ValueType)
  | notIntArgument (type : ValueType)
  | notFloatArgument (type : ValueType)
  | sumOfStrings
  | wrongArity (function : Builtin) (arity : Arity) (given : Nat)
  | nothingToCompare (function : Builtin)
  deriving DecidableEq, Repr

/-- The number of arguments that a call broke: the only one, or the bound on its side. -/
def Arity.expected (arity : Arity) (given : Nat) : String :=
  if arity.least = arity.most then "exactly " ++ toString arity.least
  else if given < arity.least then "at least " ++ toString arity.least
  else "at most " ++ toString arity.most

def TypeFault.message : TypeFault → String
  | .notIterable type => "'" ++ type.name ++ "' object is not iterable"
  | .notOperand op type =>
    "bad operand type for unary " ++ (if op = .neg then "-" else "+") ++ ": '" ++ type.name ++ "'"
  | .notOperands op left right =>
    "unsupported operand type(s) for " ++ op.text ++ ": '" ++ left.name ++ "' and '" ++ right.name
      ++ "'"
  | .notOrdered sign left right =>
    "'" ++ sign ++ "' not supported between instances of '" ++ left.name ++ "' and '" ++ right.name
      ++ "'"
  | .notContainer type => "argument of type '" ++ type.name ++ "' is not iterable"
  | .notSubstring type =>
    "'in <string>' requires string as left operand, not " ++ type.name
  | .notIndex container index =>
    container.name ++ " indices must be integers, not '" ++ index.name ++ "'"
  | .notSubscriptable type => "'" ++ type.name ++ "' object is not subscriptable"
  | .notItemAssignable type =>
    "'" ++ type.name ++ "' object does not support item assignment"
  | .notCallable type => "'" ++ type.name ++ "' object is not callable"
  | .noLength type => "object of type '" ++ type.name ++ "' has no len()"
  | .noMagnitude type => "bad operand type for abs(): '" ++ type.name ++ "'"
  | .notRoundable type => "type " ++ type.name ++ " doesn't define __round__ method"
  | .notInteger type => "'" ++ type.name ++ "' object cannot be interpreted as an integer"
  | .notIntArgument type =>
    "int() argument must be a string or a number, not '" ++ type.name ++ "'"
  | .notFloatArgument type =>
    "float() argument must be a string or a number, not '" ++ type.name ++ "'"
  | .sumOfStrings => "sum() can't sum strings [use ''.join(seq) instead]"
  | .wrongArity function arity given =>
    function.name ++ "() takes " ++ arity.expected given ++ " argument"
      ++ (if arity = ⟨1, 1⟩ then "" else "s") ++ " (" ++ toString given ++ " given)"
  | .nothingToCompare function =>
    function.name ++ "() expected at least 1 argument, got 0"

/-- A value of the right type that an operation cannot take. -/
inductive ValueFault where
  /-- A text, given as it is quoted, that is no integer numeral. -/
  | notIntNumeral (quoted : String)
  | notFloatNumeral (quoted : String)
  /-- An infinity, or what is no number. -/
  | notFinite (x : Float)
  | emptySequence (function : Builtin)
  | zeroStep
  deriving DecidableEq

def ValueFault.message : ValueFault → String
  | .notIntNumeral quoted => "invalid literal for int() with base 10: " ++ quoted
  | .notFloatNumeral quoted => "could not convert string to float: " ++ quoted
  | .notFinite x =>
    "cannot convert float " ++ Number.FloatFormat.value.render x ++ " to integer"
  | .emptySequence function => function.name ++ "() arg is an empty sequence"
  | .zeroStep => "range() arg 3 must not be zero"

/-- A position outside a container. -/
inductive IndexFault where
  | read (type : ValueType)
  | assignment
  deriving DecidableEq, Repr

def IndexFault.message : IndexFault → String
  | .read type => type.name ++ " index out of range"
  | .assignment => "list assignment index out of range"

/-- What can go wrong while a program runs. -/
inductive RuntimeFault where
  | undefinedName (name : String)
  | type (fault : TypeFault)
  | value (fault : ValueFault)
  | index (fault : IndexFault)
  | attribute (owner : ValueType) (name : String)
  | divisionByZero
  /-- An integer that needs more than 64 bits. -/
  | overflow
  /-- A string or list beyond the bounds on repetition and ranges. -/
  | tooLarge
  /-- Lists nested deeper than comparison follows. -/
  | recursionLimit
  | output (fault : OutputFault)
  deriving DecidableEq

def RuntimeFault.message : RuntimeFault → String
  | .undefinedName name => "name '" ++ name ++ "' is not defined"
  | .type fault => fault.message
  | .value fault => fault.message
  | .index fault => fault.message
  | .attribute owner name => "'" ++ owner.name ++ "' object has no attribute '" ++ name ++ "'"
  | .divisionByZero => "division by zero"
  | .overflow => "integer overflow"
  | .tooLarge => "result is too large"
  | .recursionLimit => "maximum recursion depth exceeded in comparison"
  | .output fault => "cannot write output: " ++ fault.message

/-- What can go wrong with the text of a script. -/
inductive ScriptFault where
  | lexical (fault : LexFault)
  | syntactic (fault : SyntaxFault)
  | runtime (fault : RuntimeFault)
  deriving DecidableEq

def ScriptFault.message : ScriptFault → String
  | .lexical fault => fault.message
  | .syntactic fault => fault.message
  | .runtime fault => fault.message

end Roundtable.Script
