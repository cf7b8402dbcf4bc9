import Roundtable.Proofs.Lockstep
import Roundtable.Script.Submission
/-!
Scripts over two sinks. A script looks at its output in one place only, where it prints; everything
else it does is decided by the bindings, the lists and the room. So over coupled sinks it runs in
lockstep.
-/

namespace Roundtable.Script

instance : Carrier Memory where
  Rest := Heap
  rest memory := memory.heap
  sink memory := memory.output
  make heap output := ⟨heap, output⟩
  rest_make _ _ := rfl
  sink_make _ _ := rfl

instance : Carrier @Machine where
  Rest := Bindings × Heap
  rest machine := (machine.bindings, machine.heap)
  sink machine := machine.output
  make part output := ⟨part.1, part.2, output⟩
  rest_make _ _ := rfl
  sink_make _ _ := rfl

/-! ### What the steps of a script are made of -/

section Steps

variable {ω α : Type}

theorem Action.place_list_eq_onRest (items : Array Value) :
    (Action.place (.list items) : Action ω Value) = onRest fun heap : Heap =>
      (.ok (.list (heap.allocate items).2), (heap.allocate items).1) :=
  rfl

namespace Execution

theorem bind_eq_onRest (name : String) (value : Value) :
    (bind name value : ExecutionOn ω RuntimeFault Unit) = onRest fun part : Bindings × Heap =>
      (.ok (), (part.1.insert name value, part.2)) :=
  rfl

theorem unbind_eq_onRest (name : String) :
    (unbind name : ExecutionOn ω RuntimeFault Unit) = onRest fun part : Bindings × Heap =>
      if name ∈ part.1 then (.ok (), (part.1.erase name, part.2))
      else (.error (.undefinedName name), part) := by
  funext ⟨bindings, heap, output⟩
  unfold unbind onRest
  dsimp only [Carrier.rest, Carrier.make, Carrier.sink]
  split <;> rfl

theorem assignItem_eq_onRest (container index value : Value) :
    (assignItem container index value : ExecutionOn ω RuntimeFault Unit) =
      onRest fun part : Bindings × Heap =>
        match container.assignmentPlace part.2 index with
        | .ok (id, position) => (.ok (), (part.1, part.2.setItem id position value))
        | .error fault => (.error fault, part) := by
  funext ⟨bindings, heap, output⟩
  unfold assignItem onRest
  dsimp only [Carrier.rest, Carrier.make, Carrier.sink]
  rcases container.assignmentPlace heap index with fault | ⟨id, position⟩ <;> rfl

theorem onMemory_eq_within (action : Bindings → Action ω α) :
    onMemory action = within (fun part : Bindings × Heap => part.2)
      (fun (part : Bindings × Heap) (heap : Heap) => (part.1, heap)) id
      (fun part : Bindings × Heap => action part.1) := by
  funext ⟨bindings, heap, output⟩
  unfold onMemory within
  dsimp only [Carrier.rest, Carrier.make, Carrier.sink, id]
  cases action bindings ⟨heap, output⟩ <;> rfl

theorem asScript_eq_within (execution : ExecutionOn ω RuntimeFault α) :
    asScript execution = within id (fun _ (part : Bindings × Heap) => part)
      (Except.mapError ScriptFault.runtime) (fun _ : Bindings × Heap => execution) := by
  funext ⟨bindings, heap, output⟩
  unfold asScript within
  dsimp only [Carrier.rest, Carrier.make, Carrier.sink, id]
  cases execution ⟨bindings, heap, output⟩ <;> rfl

end Execution

end Steps

variable {ω ω' : Type} [Sink ω] [Sink ω'] (coupling : Coupling ω ω') {ε α : Type}

/-! ### Expressions -/

namespace Action

theorem ofExcept_lockstep (result : Except RuntimeFault α) :
    Lockstep coupling (ofExcept result : Action ω α) (ofExcept result : Action ω' α) := by
  cases result with
  | ok value => exact lockstep_pure value
  | error fault => exact lockstep_throw fault

theorem fromHeap_lockstep (result : Heap → Except RuntimeFault α) :
    Lockstep coupling (fromHeap result : Action ω α) (fromHeap result : Action ω' α) := by
  refine lockstep_get_bind fun memory memory' hheap => ?_
  rw [show memory.heap = memory'.heap from hheap]
  exact ofExcept_lockstep coupling _

theorem place_lockstep (made : Made) :
    Lockstep coupling (place made : Action ω Value) (place made : Action ω' Value) := by
  cases made with
  | value value => exact lockstep_pure value
  | list items =>
      rw [Action.place_list_eq_onRest, Action.place_list_eq_onRest]
      exact lockstep_onRest _

theorem write_lockstep (text : String) :
    Lockstep coupling (write text : Action ω Unit) (write text : Action ω' Unit) :=
  lockstep_writeTo (RuntimeFault.output .full) text

end Action

theorem Value.call_lockstep (room : Room) (callee : Value) (arguments : List Value) :
    Lockstep coupling (callee.call room arguments : Action ω Value)
      (callee.call room arguments : Action ω' Value) := by
  unfold Value.call
  split
  · rename_i function
    have hmake : Lockstep coupling
        (do
          let made ← Action.fromHeap fun heap => function.result room heap arguments
          Action.place made : Action ω Value)
        (do
          let made ← Action.fromHeap fun heap => function.result room heap arguments
          Action.place made : Action ω' Value) :=
      (Action.fromHeap_lockstep coupling _).bind fun made => Action.place_lockstep coupling made
    split
    · refine lockstep_get_bind fun memory memory' hheap => ?_
      rw [show memory.heap = memory'.heap from hheap]
      exact (Action.write_lockstep coupling _).bind fun _ => hmake
    · exact hmake
  · exact lockstep_throw _

theorem applyBinary_lockstep (op : BinaryOp) (left right : Value) :
    Lockstep coupling (applyBinary op left right : Action ω Value)
      (applyBinary op left right : Action ω' Value) :=
  (Action.fromHeap_lockstep coupling _).bind fun made => Action.place_lockstep coupling made

theorem applyUnary_lockstep (room : Room) (op : UnaryOp) (operand : Value) :
    Lockstep coupling (applyUnary room op operand : Action ω Value)
      (applyUnary room op operand : Action ω' Value) := by
  unfold applyUnary
  split
  · exact Action.fromHeap_lockstep coupling _
  · exact Action.ofExcept_lockstep coupling _

mutual

theorem eval_lockstep {ω ω' : Type} [Sink ω] [Sink ω'] (coupling : Coupling ω ω') (room : Room)
    (bindings : Bindings) (expr : Expr) :
    Lockstep coupling (eval room bindings expr : Action ω Value)
      (eval room bindings expr : Action ω' Value) := by
  match expr with
  | .int value => exact lockstep_pure _
  | .float value => exact lockstep_pure _
  | .str text => exact lockstep_pure _
  | .bool value => exact lockstep_pure _
  | .none => exact lockstep_pure _
  | .name name => exact Action.ofExcept_lockstep coupling _
  | .list items =>
      exact (evalAll_lockstep coupling room bindings #[] items).bind fun values =>
        Action.place_lockstep coupling _
  | .unary op operand =>
      exact (eval_lockstep coupling room bindings operand).bind fun value =>
        applyUnary_lockstep coupling room op value
  | .binary op left right =>
      refine (eval_lockstep coupling room bindings left).bind fun x => ?_
      exact (eval_lockstep coupling room bindings right).bind fun y =>
        applyBinary_lockstep coupling op x y
  | .compare first rest =>
      exact (eval_lockstep coupling room bindings first).bind fun value =>
        evalChain_lockstep coupling room bindings value rest
  | .logical op left right =>
      refine (eval_lockstep coupling room bindings left).bind fun value => ?_
      refine lockstep_get_bind fun memory memory' hheap => ?_
      change Lockstep coupling (if _ then _ else _) (if _ then _ else _)
      rw [show memory.heap = memory'.heap from hheap]
      split
      · exact lockstep_pure value
      · exact eval_lockstep coupling room bindings right
  | .call callee arguments =>
      refine (eval_lockstep coupling room bindings callee).bind fun function => ?_
      exact (evalAll_lockstep coupling room bindings #[] arguments).bind fun values =>
        function.call_lockstep coupling room values.toList
  | .index container position =>
      refine (eval_lockstep coupling room bindings container).bind fun sequence => ?_
      exact (eval_lockstep coupling room bindings position).bind fun index =>
        Action.fromHeap_lockstep coupling _
  | .attribute object name =>
      exact (eval_lockstep coupling room bindings object).bind fun value =>
        Action.ofExcept_lockstep coupling _
termination_by structural expr

theorem evalAll_lockstep {ω ω' : Type} [Sink ω] [Sink ω'] (coupling : Coupling ω ω') (room : Room)
    (bindings : Bindings) (values : Array Value) (exprs : List Expr) :
    Lockstep coupling (evalAll room bindings values exprs : Action ω (Array Value))
      (evalAll room bindings values exprs : Action ω' (Array Value)) := by
  cases exprs with
  | nil => exact lockstep_pure values
  | cons expr rest =>
      exact (eval_lockstep coupling room bindings expr).bind fun value =>
        evalAll_lockstep coupling room bindings (values.push value) rest
termination_by structural exprs

theorem evalChain_lockstep {ω ω' : Type} [Sink ω] [Sink ω'] (coupling : Coupling ω ω')
    (room : Room) (bindings : Bindings) (left : Value) (chain : List (CompareOp × Expr)) :
    Lockstep coupling (evalChain room bindings left chain : Action ω Value)
      (evalChain room bindings left chain : Action ω' Value) := by
  cases chain with
  | nil => exact lockstep_pure _
  | cons link rest =>
      obtain ⟨op, expr⟩ := link
      refine (eval_lockstep coupling room bindings expr).bind fun right => ?_
      refine (Action.fromHeap_lockstep coupling _).bind fun holds => ?_
      change Lockstep coupling (if _ then _ else _) (if _ then _ else _)
      split
      · exact evalChain_lockstep coupling room bindings right rest
      · exact lockstep_pure _
termination_by structural chain

end

/-! ### Statements -/

namespace Execution

theorem onMemory_lockstep {action : Bindings → Action ω α} {action' : Bindings → Action ω' α}
    (h : ∀ bindings, Lockstep coupling (action bindings) (action' bindings)) :
    Lockstep coupling (onMemory action) (onMemory action') := by
  rw [onMemory_eq_within, onMemory_eq_within]
  exact lockstep_within _ _ _ fun part : Bindings × Heap => h part.1

theorem evaluate_lockstep (room : Room) (expr : Expr) :
    Lockstep coupling (evaluate room expr : ExecutionOn ω RuntimeFault Value)
      (evaluate room expr : ExecutionOn ω' RuntimeFault Value) :=
  onMemory_lockstep coupling fun bindings => eval_lockstep coupling room bindings expr

theorem combine_lockstep (op : BinaryOp) (left right : Value) :
    Lockstep coupling
      (onMemory fun _ => applyBinary op left right : ExecutionOn ω RuntimeFault Value)
      (onMemory fun _ => applyBinary op left right : ExecutionOn ω' RuntimeFault Value) :=
  onMemory_lockstep coupling fun _ => applyBinary_lockstep coupling op left right

theorem bindName_lockstep (name : String) (value : Value) :
    Lockstep coupling (bind name value : ExecutionOn ω RuntimeFault Unit)
      (bind name value : ExecutionOn ω' RuntimeFault Unit) := by
  rw [bind_eq_onRest, bind_eq_onRest]
  exact lockstep_onRest _

theorem unbind_lockstep (name : String) :
    Lockstep coupling (unbind name : ExecutionOn ω RuntimeFault Unit)
      (unbind name : ExecutionOn ω' RuntimeFault Unit) := by
  rw [unbind_eq_onRest, unbind_eq_onRest]
  exact lockstep_onRest _

theorem assignItem_lockstep (container index value : Value) :
    Lockstep coupling (assignItem container index value : ExecutionOn ω RuntimeFault Unit)
      (assignItem container index value : ExecutionOn ω' RuntimeFault Unit) := by
  rw [assignItem_eq_onRest, assignItem_eq_onRest]
  exact lockstep_onRest _

theorem ofExcept_lockstep (result : Except ε α) :
    Lockstep coupling (ofExcept result : ExecutionOn ω ε α)
      (ofExcept result : ExecutionOn ω' ε α) := by
  cases result with
  | ok value => exact lockstep_pure value
  | error fault => exact lockstep_throw fault

theorem asScript_lockstep {execution : ExecutionOn ω RuntimeFault α}
    {execution' : ExecutionOn ω' RuntimeFault α} (h : Lockstep coupling execution execution') :
    Lockstep coupling (asScript execution) (asScript execution') := by
  rw [asScript_eq_within, asScript_eq_within]
  exact lockstep_within _ _ _ fun _ => h

end Execution

open Execution

theorem execute_lockstep (room : Room) (statement : Statement) :
    Lockstep coupling (execute room statement : ExecutionOn ω RuntimeFault Unit)
      (execute room statement : ExecutionOn ω' RuntimeFault Unit) := by
  unfold execute
  split
  · exact (evaluate_lockstep coupling room _).bind fun _ => lockstep_pure ()
  · exact (evaluate_lockstep coupling room _).bind fun value => bindName_lockstep coupling _ value
  · refine (evaluate_lockstep coupling room _).bind fun value => ?_
    refine (evaluate_lockstep coupling room _).bind fun sequence => ?_
    refine (evaluate_lockstep coupling room _).bind fun index => ?_
    exact assignItem_lockstep coupling sequence index value
  · refine (evaluate_lockstep coupling room _).bind fun current => ?_
    refine (evaluate_lockstep coupling room _).bind fun operand => ?_
    refine (combine_lockstep coupling _ current operand).bind fun value => ?_
    exact bindName_lockstep coupling _ value
  · refine (evaluate_lockstep coupling room _).bind fun sequence => ?_
    refine (evaluate_lockstep coupling room _).bind fun index => ?_
    refine (onMemory_lockstep coupling fun _ => Action.fromHeap_lockstep coupling _).bind
      fun current => ?_
    refine (evaluate_lockstep coupling room _).bind fun operand => ?_
    refine (combine_lockstep coupling _ current operand).bind fun value => ?_
    exact assignItem_lockstep coupling sequence index value
  · exact unbind_lockstep coupling _
  · exact lockstep_pure ()

theorem run_lockstep (room : Room) (program : List Statement) :
    Lockstep coupling (run room program : ExecutionOn ω RuntimeFault Unit)
      (run room program : ExecutionOn ω' RuntimeFault Unit) := by
  induction program with
  | nil => exact lockstep_pure ()
  | cons statement rest ih => exact (execute_lockstep coupling room statement).bind fun _ => ih

theorem executeBlock_lockstep (room : Room) (source : String) :
    Lockstep coupling (executeBlock room source : ExecutionOn ω ScriptFault Unit)
      (executeBlock room source : ExecutionOn ω' ScriptFault Unit) :=
  (ofExcept_lockstep coupling _).bind fun program =>
    asScript_lockstep coupling (run_lockstep coupling room program)

theorem executeSubmission_lockstep (room : Room) (source : String) :
    Lockstep coupling (executeSubmission room source : ExecutionOn ω ScriptFault (Option Value))
      (executeSubmission room source : ExecutionOn ω' ScriptFault (Option Value)) := by
  refine (ofExcept_lockstep coupling _).bind fun tokens => ?_
  split
  · refine (asScript_lockstep coupling (evaluate_lockstep coupling room _)).bind fun value => ?_
    exact lockstep_pure _
  · refine (ofExcept_lockstep coupling _).bind fun program => ?_
    refine (asScript_lockstep coupling (run_lockstep coupling room program)).bind fun _ => ?_
    exact lockstep_pure _

end Roundtable.Script
