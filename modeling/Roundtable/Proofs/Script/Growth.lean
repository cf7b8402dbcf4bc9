import Roundtable.Proofs.Effect
import Roundtable.Script.Submission
/-!
What the evaluation of an expression can do to the memory: make new lists, and write. Everything it
does is a sequence of these two steps, whichever of the writes fail. A program can besides bind
names and replace items of lists, and it too reaches its output by writing alone.
-/

namespace Roundtable.Script

variable {ω : Type} [Sink ω]

/-- One step of an evaluation that can be seen in the memory. -/
inductive Memory.Step : Memory ω → Memory ω → Prop where
  | write (heap : Heap) (output : ω) (text : String) :
      Step ⟨heap, output⟩ ⟨heap, (Sink.write output text).1⟩
  | allocate (heap : Heap) (output : ω) (items : Array Value) :
      Step ⟨heap, output⟩ ⟨(heap.allocate items).1, output⟩

/-- The second memory comes from the first by making lists and writing. -/
def Memory.Grows : Memory ω → Memory ω → Prop :=
  Relation.ReflTransGen Memory.Step

theorem Memory.grows_refl (memory : Memory ω) : memory.Grows memory :=
  Relation.ReflTransGen.refl

theorem Memory.Grows.trans {first second third : Memory ω} (hfirst : first.Grows second)
    (hsecond : second.Grows third) : first.Grows third :=
  Relation.ReflTransGen.trans hfirst hsecond

theorem Memory.Grows.output_reaches {before after : Memory ω} (h : before.Grows after) :
    Sink.Reaches before.output after.output := by
  induction h with
  | refl => exact Sink.reaches_refl _
  | tail _ hstep ih =>
      cases hstep with
      | write heap output text => exact ih.trans (Sink.reaches_write output text)
      | allocate => exact ih

/-- An action that only makes lists and writes. -/
abbrev Action.Grows {α : Type} (action : Action ω α) : Prop :=
  Leads Memory.Grows action

namespace Action

variable {α β : Type}

theorem grows_pure (value : α) : Grows (pure value : Action ω α) :=
  leads_pure Memory.grows_refl value

theorem Grows.bind {action : Action ω α} {next : α → Action ω β} (haction : Grows action)
    (hnext : ∀ value, Grows (next value)) : Grows (action >>= next) :=
  leads_bind (fun hfirst hsecond => hfirst.trans hsecond) haction hnext

theorem grows_ofExcept (result : Except RuntimeFault α) : Grows (ofExcept result : Action ω α) := by
  cases result with
  | ok value => exact leads_pure Memory.grows_refl value
  | error fault => exact leads_throw Memory.grows_refl fault

theorem grows_fromHeap (result : Heap → Except RuntimeFault α) :
    Grows (fromHeap result : Action ω α) :=
  leads_get_bind fun _ => grows_ofExcept _

theorem grows_place (made : Made) : Grows (place made : Action ω Value) := by
  cases made with
  | value value => exact grows_pure value
  | list items => exact fun ⟨heap, output⟩ => .single (.allocate heap output items)

theorem grows_write (text : String) : Grows (write text : Action ω Unit) := by
  rintro ⟨heap, output⟩
  have hstep := Memory.Step.write heap output text
  unfold write
  rcases hwrite : Sink.write output text with ⟨sink, _ | _⟩
  all_goals
    rw [hwrite] at hstep
    simp only [hwrite]
    exact .single hstep

end Action

theorem Value.call_grows (room : Room) (callee : Value) (arguments : List Value) :
    Action.Grows (callee.call room arguments : Action ω Value) := by
  unfold Value.call
  split
  · have hmake (function : Builtin) : Action.Grows (do
        let made ← Action.fromHeap fun heap => function.result room heap arguments
        Action.place made : Action ω Value) :=
      (Action.grows_fromHeap _).bind Action.grows_place
    split
    · refine leads_get_bind fun seen => ?_
      have hwrite : Action.Grows (Action.write (printedLine room seen.heap arguments) :
          Action ω Unit) := Action.grows_write _
      exact hwrite.bind fun _ => hmake _
    · exact hmake _
  · exact leads_throw Memory.grows_refl _

theorem applyBinary_grows (op : BinaryOp) (left right : Value) :
    Action.Grows (applyBinary op left right : Action ω Value) :=
  (Action.grows_fromHeap _).bind Action.grows_place

theorem applyUnary_grows (room : Room) (op : UnaryOp) (operand : Value) :
    Action.Grows (applyUnary room op operand : Action ω Value) := by
  unfold applyUnary
  split
  · exact Action.grows_fromHeap _
  · exact Action.grows_ofExcept _

mutual

/-- Evaluating an expression only makes lists and writes, also when it ends in a fault. -/
theorem eval_grows (room : Room) (bindings : Bindings) (expr : Expr) :
    Action.Grows (eval room bindings expr : Action ω Value) := by
  match expr with
  | .int value => exact Action.grows_pure _
  | .float value => exact Action.grows_pure _
  | .str text => exact Action.grows_pure _
  | .bool value => exact Action.grows_pure _
  | .none => exact Action.grows_pure _
  | .name name => exact Action.grows_ofExcept _
  | .list items =>
      exact (evalAll_grows room bindings #[] items).bind fun values => Action.grows_place _
  | .unary op operand =>
      exact (eval_grows room bindings operand).bind fun value => applyUnary_grows room op value
  | .binary op left right =>
      refine (eval_grows room bindings left).bind fun x => ?_
      exact (eval_grows room bindings right).bind fun y => applyBinary_grows op x y
  | .compare first rest =>
      exact (eval_grows room bindings first).bind fun value =>
        evalChain_grows room bindings value rest
  | .logical op left right =>
      refine (eval_grows room bindings left).bind fun value => ?_
      refine leads_get_bind fun seen => ?_
      show Action.Grows (if _ then _ else _)
      split
      · exact Action.grows_pure value
      · exact eval_grows room bindings right
  | .call callee arguments =>
      refine (eval_grows room bindings callee).bind fun function => ?_
      exact (evalAll_grows room bindings #[] arguments).bind fun values =>
        function.call_grows room values.toList
  | .index container position =>
      refine (eval_grows room bindings container).bind fun sequence => ?_
      exact (eval_grows room bindings position).bind fun index => Action.grows_fromHeap _
  | .attribute object name =>
      exact (eval_grows room bindings object).bind fun value => Action.grows_ofExcept _
termination_by structural expr

theorem evalAll_grows (room : Room) (bindings : Bindings) (values : Array Value)
    (exprs : List Expr) :
    Action.Grows (evalAll room bindings values exprs : Action ω (Array Value)) := by
  cases exprs with
  | nil => exact Action.grows_pure values
  | cons expr rest =>
      exact (eval_grows room bindings expr).bind fun value =>
        evalAll_grows room bindings (values.push value) rest
termination_by structural exprs

theorem evalChain_grows (room : Room) (bindings : Bindings) (left : Value)
    (chain : List (CompareOp × Expr)) :
    Action.Grows (evalChain room bindings left chain : Action ω Value) := by
  cases chain with
  | nil => exact Action.grows_pure _
  | cons link rest =>
      obtain ⟨op, expr⟩ := link
      refine (eval_grows room bindings expr).bind fun right => ?_
      refine (Action.grows_fromHeap _).bind fun holds => ?_
      show Action.Grows (if _ then _ else _)
      split
      · exact evalChain_grows room bindings right rest
      · exact Action.grows_pure _
termination_by structural chain

end

/-- An execution that reaches its output by writing alone. -/
abbrev ExecutionOn.OnlyWrites {ε α : Type} (execution : ExecutionOn ω ε α) : Prop :=
  Leads (fun before after => Sink.Reaches before.output after.output) execution

namespace Execution

variable {ε α β : Type}

theorem onlyWrites_pure (value : α) : ExecutionOn.OnlyWrites (pure value : ExecutionOn ω ε α) :=
  leads_pure (fun machine => Sink.reaches_refl machine.output) value

theorem onlyWrites_bind {execution : ExecutionOn ω ε α} {next : α → ExecutionOn ω ε β}
    (hexecution : ExecutionOn.OnlyWrites execution)
    (hnext : ∀ value, ExecutionOn.OnlyWrites (next value)) :
    ExecutionOn.OnlyWrites (execution >>= next) :=
  leads_bind (fun hfirst hsecond => hfirst.trans hsecond) hexecution hnext

theorem onlyWrites_onMemory {action : Bindings → Action ω α}
    (haction : ∀ bindings, (action bindings).Grows) :
    ExecutionOn.OnlyWrites (onMemory action) := by
  rintro ⟨bindings, heap, output⟩
  have hgrows := (haction bindings ⟨heap, output⟩).output_reaches
  unfold onMemory
  cases hrun : action bindings ⟨heap, output⟩ with
  | ok value memory =>
      rw [hrun] at hgrows
      simp only [hrun]
      exact hgrows
  | error fault memory =>
      rw [hrun] at hgrows
      simp only [hrun]
      exact hgrows

theorem onlyWrites_evaluate (room : Room) (expr : Expr) :
    ExecutionOn.OnlyWrites (evaluate room expr : ExecutionOn ω RuntimeFault Value) :=
  onlyWrites_onMemory fun bindings => eval_grows room bindings expr

theorem onlyWrites_bindName (name : String) (value : Value) :
    ExecutionOn.OnlyWrites (bind name value : ExecutionOn ω RuntimeFault Unit) :=
  fun machine => Sink.reaches_refl machine.output

theorem onlyWrites_unbind (name : String) :
    ExecutionOn.OnlyWrites (unbind name : ExecutionOn ω RuntimeFault Unit) := by
  rintro ⟨bindings, heap, output⟩
  dsimp only [unbind]
  split <;> exact Sink.reaches_refl output

theorem onlyWrites_assignItem (container index value : Value) :
    ExecutionOn.OnlyWrites (assignItem container index value : ExecutionOn ω RuntimeFault Unit) := by
  rintro ⟨bindings, heap, output⟩
  dsimp only [assignItem]
  split <;> exact Sink.reaches_refl output

theorem onlyWrites_ofExcept (result : Except ε α) :
    ExecutionOn.OnlyWrites (ofExcept result : ExecutionOn ω ε α) := by
  cases result <;> exact fun machine => Sink.reaches_refl machine.output

theorem onlyWrites_asScript {execution : ExecutionOn ω RuntimeFault α}
    (hexecution : ExecutionOn.OnlyWrites execution) :
    ExecutionOn.OnlyWrites (asScript execution) := by
  intro machine
  have hreach := hexecution machine
  unfold asScript
  cases hrun : execution machine with
  | ok value after =>
      rw [hrun] at hreach
      exact hreach
  | error fault after =>
      rw [hrun] at hreach
      exact hreach

end Execution

open Execution

theorem execute_onlyWrites (room : Room) (statement : Statement) :
    ExecutionOn.OnlyWrites (execute room statement : ExecutionOn ω RuntimeFault Unit) := by
  unfold execute
  split
  · apply onlyWrites_bind (onlyWrites_evaluate room _)
    exact fun _ => onlyWrites_pure ()
  · apply onlyWrites_bind (onlyWrites_evaluate room _)
    exact fun value => onlyWrites_bindName _ value
  · apply onlyWrites_bind (onlyWrites_evaluate room _)
    intro value
    apply onlyWrites_bind (onlyWrites_evaluate room _)
    intro sequence
    apply onlyWrites_bind (onlyWrites_evaluate room _)
    exact fun index => onlyWrites_assignItem sequence index value
  · apply onlyWrites_bind (onlyWrites_evaluate room _)
    intro current
    apply onlyWrites_bind (onlyWrites_evaluate room _)
    intro operand
    apply onlyWrites_bind (onlyWrites_onMemory fun _ => applyBinary_grows _ current operand)
    exact fun value => onlyWrites_bindName _ value
  · apply onlyWrites_bind (onlyWrites_evaluate room _)
    intro sequence
    apply onlyWrites_bind (onlyWrites_evaluate room _)
    intro index
    apply onlyWrites_bind (onlyWrites_onMemory fun _ => Action.grows_fromHeap _)
    intro current
    apply onlyWrites_bind (onlyWrites_evaluate room _)
    intro operand
    apply onlyWrites_bind (onlyWrites_onMemory fun _ => applyBinary_grows _ current operand)
    exact fun value => onlyWrites_assignItem sequence index value
  · exact onlyWrites_unbind _
  · exact onlyWrites_pure ()

theorem run_onlyWrites (room : Room) (program : List Statement) :
    ExecutionOn.OnlyWrites (run room program : ExecutionOn ω RuntimeFault Unit) := by
  induction program with
  | nil => exact onlyWrites_pure ()
  | cons statement rest ih =>
      exact onlyWrites_bind (execute_onlyWrites room statement) fun _ => ih

/-- A script file reaches its output by writing alone, wherever its run ends. -/
theorem executeBlock_onlyWrites (room : Room) (source : String) :
    ExecutionOn.OnlyWrites (executeBlock room source : ExecutionOn ω ScriptFault Unit) := by
  apply onlyWrites_bind (onlyWrites_ofExcept _)
  intro program
  exact onlyWrites_asScript (run_onlyWrites room program)

theorem executeSubmission_onlyWrites (room : Room) (source : String) :
    ExecutionOn.OnlyWrites
      (executeSubmission room source : ExecutionOn ω ScriptFault (Option Value)) := by
  apply onlyWrites_bind (onlyWrites_ofExcept _)
  intro tokens
  split
  · apply onlyWrites_bind (onlyWrites_asScript (onlyWrites_evaluate room _))
    intro value
    exact onlyWrites_pure _
  · apply onlyWrites_bind (onlyWrites_ofExcept _)
    intro program
    apply onlyWrites_bind (onlyWrites_asScript (run_onlyWrites room program))
    exact fun _ => onlyWrites_pure _

end Roundtable.Script
