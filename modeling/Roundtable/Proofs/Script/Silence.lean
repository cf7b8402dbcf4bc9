import Roundtable.Proofs.Script.Lockstep
import Roundtable.Proofs.Script.Reach
import Roundtable.Proofs.Transcript
/-!
Evaluating an expression again. An expression that writes nothing gives, whenever it is evaluated, a
counterpart of what it gave before: evaluation changes no list, so all that it reads is still there.
Only the places of its new lists differ. That nothing is written is told by a transcript.
-/

namespace Roundtable.Script

/-- The evaluation of an expression from these bindings and lists on, with a transcript of what it
writes. -/
def Expr.transcribed (room : Room) (bindings : Bindings) (heap : Heap) (expr : Expr) :
    EStateM.Result RuntimeFault (Memory Transcript) Value :=
  eval room bindings expr ⟨heap, .blank⟩

/-- Nothing is written when the expression is evaluated from these bindings and lists on. -/
def Expr.Silent (room : Room) (bindings : Bindings) (heap : Heap) (expr : Expr) : Prop :=
  (stateAfter (expr.transcribed room bindings heap)).output.texts = []

variable {ω : Type} [Sink ω]

/-- A sink beside the transcript of what is written to it: they are in step while that is nothing. -/
def silence (held : ω) : Coupling ω Transcript where
  inStep sink transcript := sink = held ∧ transcript.texts = []
  apart _ transcript := transcript.texts ≠ []
  write_both text _ := .inr (List.concat_ne_nil text _)
  write_first _ h := h
  write_second text _ := List.concat_ne_nil text _

namespace Expr.Silent

variable {room : Room} {bindings bindings' : Bindings} {heap heap' later : Heap} {pairs : Pairing}
  {expr : Expr}

/-- What happens over a transcript happens over any sink, which is left alone. -/
theorem eval_eq (h : expr.Silent room bindings heap) (output : ω) :
    eval room bindings expr ⟨heap, output⟩ =
      endingIn ⟨(stateAfter (expr.transcribed room bindings heap)).heap, output⟩
        (outcome (expr.transcribed room bindings heap)) := by
  have hends : (silence output).Ends (eval room bindings expr ⟨heap, output⟩)
      (expr.transcribed room bindings heap) :=
    (eval_lockstep (silence output) room bindings expr).ends ⟨heap, output⟩ ⟨heap, .blank⟩
      ⟨rfl, rfl, rfl⟩
  unfold Silent at h
  generalize expr.transcribed room bindings heap = told at hends h
  generalize eval room bindings expr ⟨heap, output⟩ = held at hends
  cases hends with
  | @ok memory memory' value hstep =>
      obtain ⟨hheap, hsink, -⟩ := hstep
      obtain ⟨_, _⟩ := memory
      cases hsink
      cases hheap
      rfl
  | @error memory memory' fault hstep =>
      obtain ⟨hheap, hsink, -⟩ := hstep
      obtain ⟨_, _⟩ := memory
      cases hsink
      cases hheap
      rfl
  | apart hapart => exact absurd h hapart

theorem transcribed_together (room : Room) (expr : Expr) (hbindings : bindings.Paired pairs bindings')
    (hheap : heap.Paired pairs heap') : Endings Memory.Paired Value.Paired pairs
      (expr.transcribed room bindings heap) (expr.transcribed room bindings' heap') := by
  have htogether : Together Memory.Paired Value.Paired pairs
      (eval room bindings expr : Action Transcript Value) (eval room bindings' expr) :=
    eval_together ⟨rfl, rfl⟩ hbindings expr
  exact htogether ⟨heap, .blank⟩ ⟨heap', .blank⟩ ⟨hheap, rfl⟩

theorem of_paired (h : expr.Silent room bindings heap) (hbindings : bindings.Paired pairs bindings')
    (hheap : heap.Paired pairs heap') : expr.Silent room bindings' heap' := by
  obtain ⟨_, -, hpaired⟩ := (transcribed_together room expr hbindings hheap).exists_stateAfter
  unfold Silent
  rwa [← hpaired.output_eq]

theorem of_growsTo (h : expr.Silent room bindings heap) (hwithin : bindings.Within heap)
    (hgrows : heap.GrowsTo later) : expr.Silent room bindings later :=
  h.of_paired (bindings.paired_itself heap) (hwithin.paired hgrows)

/-- From counterparts on, whatever was written in between, a silent expression comes to counterparts
or to the same fault. -/
theorem together (h : expr.Silent room bindings heap) (hbindings : bindings.Paired pairs bindings')
    (hheap : heap.Paired pairs heap') (output output' : ω) :
    Endings (fun pairs memory memory' => memory.heap.Paired pairs memory'.heap ∧
        memory.output = output ∧ memory'.output = output') Value.Paired pairs
      (eval room bindings expr ⟨heap, output⟩) (eval room bindings' expr ⟨heap', output'⟩) := by
  rw [h.eval_eq output, (h.of_paired hbindings hheap).eval_eq output']
  have hends := transcribed_together room expr hbindings hheap
  generalize expr.transcribed room bindings heap = told at hends
  generalize expr.transcribed room bindings' heap' = told' at hends
  cases hends with
  | ok hle hvalue hmemory => exact .ok hle hvalue ⟨hmemory.heap, rfl, rfl⟩
  | error fault hle hmemory => exact .error fault hle ⟨hmemory.heap, rfl, rfl⟩

/-- An expression that gave a value gives a counterpart when it is evaluated again. -/
theorem again (h : expr.Silent room bindings heap) (hbindings : bindings.Paired pairs bindings)
    (hheap : heap.Paired pairs heap') {value : Value} {memory : Memory ω} {output : ω}
    (hrun : eval room bindings expr ⟨heap, output⟩ = .ok value memory) (output' : ω) :
    ∃ now value' after, pairs ≤ now ∧ value.Paired now value' ∧ memory.heap.Paired now after ∧
      eval room bindings expr ⟨heap', output'⟩ = .ok value' ⟨after, output'⟩ := by
  have hends := h.together hbindings hheap output output'
  rw [hrun] at hends
  generalize hagain : eval room bindings expr ⟨heap', output'⟩ = result at hends
  cases hends with
  | @ok now _ value' _ memory' hle hvalue hmemory =>
      obtain ⟨hpaired, -, rfl⟩ := hmemory
      exact ⟨now, value', memory'.heap, hle, hvalue, hpaired, rfl⟩

end Expr.Silent

end Roundtable.Script
