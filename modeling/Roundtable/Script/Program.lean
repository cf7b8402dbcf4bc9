/-!
Programs: expressions, and the statements made of them. A program is a list of statements.
-/

namespace Roundtable.Script

inductive UnaryOp where
  | neg | pos | not
  deriving DecidableEq, Repr

inductive BinaryOp where
  | add | sub | mul | div | floorDiv | mod | pow
  deriving DecidableEq, Repr

def BinaryOp.text : BinaryOp → String
  | .add => "+"
  | .sub => "-"
  | .mul => "*"
  | .div => "/"
  | .floorDiv => "//"
  | .mod => "%"
  | .pow => "**"

inductive CompareOp where
  | eq | ne | lt | le | gt | ge | in | notIn
  deriving DecidableEq, Repr

def CompareOp.text : CompareOp → String
  | .eq => "=="
  | .ne => "!="
  | .lt => "<"
  | .le => "<="
  | .gt => ">"
  | .ge => ">="
  | .in => "in"
  | .notIn => "not in"

inductive LogicalOp where
  | and | or
  deriving DecidableEq, Repr

inductive Expr where
  | int (value : Int64)
  | float (value : Float)
  | str (text : String)
  | bool (value : Bool)
  | none
  | name (name : String)
  | list (items : List Expr)
  | unary (op : UnaryOp) (operand : Expr)
  | binary (op : BinaryOp) (left right : Expr)
  /-- A chain such as `a < b <= c`: its first operand, and each further one with the sign before
  it. -/
  | compare (first : Expr) (rest : List (CompareOp × Expr))
  | logical (op : LogicalOp) (left right : Expr)
  | call (callee : Expr) (arguments : List Expr)
  | index (container position : Expr)
  | attribute (object : Expr) (name : String)

/-- What an assignment can change: a binding, or an item of a container. -/
inductive Target where
  | name (name : String)
  | index (container position : Expr)

inductive Statement where
  /-- An expression whose value is dropped. -/
  | expr (value : Expr)
  | assign (target : Target) (value : Expr)
  /-- An assignment that combines the old value with `value`, such as `x += 1`. -/
  | augAssign (op : BinaryOp) (target : Target) (value : Expr)
  | delete (name : String)
  | pass

end Roundtable.Script
