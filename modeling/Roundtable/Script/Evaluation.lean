import Std.Data.ExtTreeMap
import Roundtable.Script.Builtin.Call
/-!
The evaluation of expressions and the execution of statements, by recursion on the tree.

Evaluating an expression reads the bindings and the room; it changes only the memory, by adding
lists and by writing. A statement evaluates all its expressions first and then makes at most one
change, to a binding or to an item of a list, so that one which is at fault has changed neither. A
fault keeps the memory as it was when it arose.
-/

namespace Roundtable.Script

/-- The values of the names that a session has bound. -/
abbrev Bindings := Std.ExtTreeMap String Value

/-- What the evaluation of an expression can add to: the lists and the output. -/
structure Memory (ω : Type) where
  heap : Heap
  output : ω

/-- A computation on the memory that may be at fault. -/
abbrev Action (ω α : Type) := EStateM RuntimeFault (Memory ω) α

variable {ω : Type}

namespace Action

/-- A result that does not depend on the memory. -/
def ofExcept {α : Type} : Except RuntimeFault α → Action ω α
  | .ok value => pure value
  | .error fault => throw fault

/-- A result that the lists decide. -/
def fromHeap {α : Type} (result : Heap → Except RuntimeFault α) : Action ω α := do
  ofExcept (result (← get).heap)

/-- The value that was made; items of a list are placed in the heap. -/
def place : Made → Action ω Value
  | .value value => pure value
  | .list items => fun ⟨heap, output⟩ =>
    let (heap, id) := heap.allocate items
    .ok (.list id) ⟨heap, output⟩

/-- Writes a text. What the output takes of it stays written even if it does not take it all. -/
def write [Sink ω] (text : String) : Action ω Unit := fun ⟨heap, output⟩ =>
  match Sink.write output text with
  | (output, true) => .ok () ⟨heap, output⟩
  | (output, false) => .error (.output .full) ⟨heap, output⟩

end Action

/-- The value of a name: a binding, else a function of the language. -/
def Bindings.lookup (bindings : Bindings) (name : String) : Except RuntimeFault Value :=
  match bindings[name]? with
  | some value => .ok value
  | none => ((Builtin.ofName? name).map .builtin).elim (.error (.undefinedName name)) .ok

/-- Calls a value. -/
def Value.call [Sink ω] (room : Room) (callee : Value) (arguments : List Value) : Action ω Value :=
  match callee with
  | .builtin function => do
    if function = .print then
      Action.write (printedLine room (← get).heap arguments)
    let made ← Action.fromHeap fun heap => function.result room heap arguments
    Action.place made
  | callee => throw (.type (.notCallable callee.type))

/-- A binary operator applied to two values. -/
def applyBinary (op : BinaryOp) (left right : Value) : Action ω Value := do
  let made ← Action.fromHeap fun heap => combine heap op left right
  Action.place made

/-- A sign or `not` applied to a value. -/
def applyUnary (room : Room) (op : UnaryOp) (operand : Value) : Action ω Value :=
  match op with
  | .not => Action.fromHeap fun heap => .ok (.bool (!operand.isTruthy room heap))
  | op => Action.ofExcept (signed op operand)

/-- Whether the left operand of `and` or `or` decides the result. -/
def LogicalOp.decides (room : Room) (heap : Heap) (op : LogicalOp) (left : Value) : Bool :=
  match op with
  | .and => !left.isTruthy room heap
  | .or => left.isTruthy room heap

mutual

/-- The value of an expression. Operands are evaluated from the left. -/
def eval [Sink ω] (room : Room) (bindings : Bindings) : Expr → Action ω Value
  | .int value => pure (.int value)
  | .float value => pure (.float value)
  | .str text => pure (.str text)
  | .bool value => pure (.bool value)
  | .none => pure .none
  | .name name => Action.ofExcept (bindings.lookup name)
  | .list items => do
    let values ← evalAll room bindings #[] items
    Action.place (.list values)
  | .unary op operand => do
    let value ← eval room bindings operand
    applyUnary room op value
  | .binary op left right => do
    let x ← eval room bindings left
    let y ← eval room bindings right
    applyBinary op x y
  | .compare first rest => do
    let value ← eval room bindings first
    evalChain room bindings value rest
  | .logical op left right => do
    let value ← eval room bindings left
    if op.decides room (← get).heap value then pure value else eval room bindings right
  | .call callee arguments => do
    let function ← eval room bindings callee
    let values ← evalAll room bindings #[] arguments
    function.call room values.toList
  | .index container position => do
    let sequence ← eval room bindings container
    let index ← eval room bindings position
    Action.fromHeap fun heap => sequence.itemAt room heap index
  | .attribute object name => do
    let value ← eval room bindings object
    Action.ofExcept (value.attributeOf name)
termination_by structural expr => expr

/-- The values of expressions, behind those already computed. -/
def evalAll [Sink ω] (room : Room) (bindings : Bindings) (values : Array Value) :
    List Expr → Action ω (Array Value)
  | [] => pure values
  | expr :: rest => do
    let value ← eval room bindings expr
    evalAll room bindings (values.push value) rest
termination_by structural exprs => exprs

/-- The rest of a comparison chain whose last operand so far is `left`. Each operand is evaluated
once, and none after the first comparison that does not hold. -/
def evalChain [Sink ω] (room : Room) (bindings : Bindings) (left : Value) :
    List (CompareOp × Expr) → Action ω Value
  | [] => pure (.bool true)
  | (op, expr) :: rest => do
    let right ← eval room bindings expr
    let holds ← Action.fromHeap fun heap => left.compares room heap op right
    if holds then evalChain room bindings right rest else pure (.bool false)
termination_by structural chain => chain

end

/-- What a program runs on: the bindings and the memory. -/
structure Machine (ω : Type := Output) where
  bindings : Bindings
  heap : Heap
  output : ω

/-- A computation on the machine that may end in a fault of the given kind. -/
abbrev ExecutionOn (ω ε α : Type) := EStateM ε (Machine ω) α

/-- A computation whose output counts bytes. -/
abbrev Execution (ε α : Type) := ExecutionOn Output ε α

namespace Execution

/-- An action on the memory of the machine, with its bindings at hand. -/
def onMemory {α : Type} (action : Bindings → Action ω α) : ExecutionOn ω RuntimeFault α :=
  fun ⟨bindings, heap, output⟩ =>
    match action bindings ⟨heap, output⟩ with
    | .ok value ⟨heap, output⟩ => .ok value ⟨bindings, heap, output⟩
    | .error fault ⟨heap, output⟩ => .error fault ⟨bindings, heap, output⟩

/-- Binds a name. -/
def bind (name : String) (value : Value) : ExecutionOn ω RuntimeFault Unit :=
  fun ⟨bindings, heap, output⟩ => .ok () ⟨bindings.insert name value, heap, output⟩

/-- Removes a binding. -/
def unbind (name : String) : ExecutionOn ω RuntimeFault Unit :=
  fun ⟨bindings, heap, output⟩ =>
    if name ∈ bindings then .ok () ⟨bindings.erase name, heap, output⟩
    else .error (.undefinedName name) ⟨bindings, heap, output⟩

/-- Replaces an item of a list. -/
def assignItem (container index value : Value) : ExecutionOn ω RuntimeFault Unit :=
  fun ⟨bindings, heap, output⟩ =>
    match container.assignmentPlace heap index with
    | .ok (id, position) => .ok () ⟨bindings, heap.setItem id position value, output⟩
    | .error fault => .error fault ⟨bindings, heap, output⟩

/-- The value of an expression. -/
def evaluate [Sink ω] (room : Room) (expr : Expr) : ExecutionOn ω RuntimeFault Value :=
  onMemory fun bindings => eval room bindings expr

end Execution

/-- Executes a statement. A plain assignment evaluates its value before its target; one that
combines evaluates the target first, to read the old value. -/
def execute [Sink ω] (room : Room) : Statement → ExecutionOn ω RuntimeFault Unit
  | .expr expr => do
    let _ ← Execution.evaluate room expr
  | .assign (.name name) expr => do
    let value ← Execution.evaluate room expr
    Execution.bind name value
  | .assign (.index container position) expr => do
    let value ← Execution.evaluate room expr
    let sequence ← Execution.evaluate room container
    let index ← Execution.evaluate room position
    Execution.assignItem sequence index value
  | .augAssign op (.name name) expr => do
    let current ← Execution.evaluate room (.name name)
    let operand ← Execution.evaluate room expr
    let value ← Execution.onMemory fun _ => applyBinary op current operand
    Execution.bind name value
  | .augAssign op (.index container position) expr => do
    let sequence ← Execution.evaluate room container
    let index ← Execution.evaluate room position
    let current ← Execution.onMemory fun _ =>
      Action.fromHeap fun heap => sequence.itemAt room heap index
    let operand ← Execution.evaluate room expr
    let value ← Execution.onMemory fun _ => applyBinary op current operand
    Execution.assignItem sequence index value
  | .delete name => Execution.unbind name
  | .pass => pure ()

/-- Executes statements in order, up to the first that is at fault. -/
def run [Sink ω] (room : Room) : List Statement → ExecutionOn ω RuntimeFault Unit
  | [] => pure ()
  | statement :: rest => do
    execute room statement
    run room rest

end Roundtable.Script
