import Roundtable.Proofs.Script.Pairing.Functions
import Roundtable.Script.Submission
/-!
Scripts in two heaps at once. From counterparts in everything that they read, two runs of one script
write the same text, end in the same fault or in counterparts, and leave counterparts. New lists are
paired as they are made, so the pairing grows; the places in the two heaps need never agree.
-/

namespace Roundtable.Script

variable {pairs later : Pairing} {room room' : Room} {heap heap' : Heap}

/-! ### Pairs are added -/

/-- One more pair of counterparts. -/
def Pairing.add (pairs : Pairing) (i j : ListId) : Pairing :=
  fun k l => pairs k l ∨ k = i ∧ l = j

theorem Pairing.le_add (pairs : Pairing) (i j : ListId) : pairs ≤ pairs.add i j :=
  fun _ _ => .inl

theorem Pairing.add_self (pairs : Pairing) (i j : ListId) : pairs.add i j i j :=
  .inr ⟨rfl, rfl⟩

/-- Nothing is paired in two heaps that need not have anything to do with each other. -/
theorem Heap.paired_none (heap heap' : Heap) : heap.Paired (fun _ _ => False) heap' :=
  ⟨nofun, nofun, nofun⟩

theorem Heap.Paired.allocate (h : heap.Paired pairs heap') {items items' : Array Value}
    (hitems : List.Forall₂ (Value.Paired pairs) items.toList items'.toList) :
    (heap.allocate items).1.Paired (pairs.add heap.lists.size heap'.lists.size)
      (heap'.allocate items').1 := by
  have hle := pairs.le_add heap.lists.size heap'.lists.size
  refine ⟨?_, ?_, ?_⟩
  -- The new places lie behind all known ones, so neither of them has a counterpart yet.
  · rintro i j k l (hij | ⟨rfl, rfl⟩) (hkl | ⟨rfl, rfl⟩)
    · exact h.one_to_one hij hkl
    · have hknown := h.known hij
      exact iff_of_false (Nat.ne_of_lt hknown.1) (Nat.ne_of_lt hknown.2)
    · have hknown := h.known hkl
      exact iff_of_false (Nat.ne_of_gt hknown.1) (Nat.ne_of_gt hknown.2)
    · simp
  · rintro i j (hij | ⟨rfl, rfl⟩)
    · simp only [Heap.allocate, Array.size_push]
      exact ⟨Nat.lt_succ_of_lt (h.known hij).1, Nat.lt_succ_of_lt (h.known hij).2⟩
    · simp [Heap.allocate]
  · rintro i j (hij | ⟨rfl, rfl⟩)
    · have hknown := h.known hij
      rw [items_allocate_of_lt heap items hknown.1, items_allocate_of_lt heap' items' hknown.2]
      exact Value.forall₂_paired_mono hle (h.items hij)
    · rw [items_allocate_self, items_allocate_self]
      exact Value.forall₂_paired_mono hle hitems

theorem Heap.Paired.setItem (h : heap.Paired pairs heap') {i j : ListId} (hij : pairs i j)
    (position : Nat) {a a' : Value} (ha : a.Paired pairs a') :
    (heap.setItem i position a).Paired pairs (heap'.setItem j position a') := by
  refine ⟨h.one_to_one, fun hkl => ?_, fun {k l} hkl => ?_⟩
  · simp only [Heap.setItem, Array.size_modify]
    exact h.known hkl
  · by_cases heq : i = k
    · have heq' := (h.one_to_one hij hkl).1 heq
      subst heq heq'
      rw [items_setItem_self, items_setItem_self, Array.toList_setIfInBounds,
        Array.toList_setIfInBounds]
      exact forall₂_set (h.items hij) position ha
    · have hne := mt (h.one_to_one hij hkl).2 heq
      rw [items_setItem_of_ne heap position a heq, items_setItem_of_ne heap' position a' hne]
      exact h.items hkl

/-! ### Memories and bindings -/

variable {ω : Type}

structure Memory.Paired (pairs : Pairing) (memory other : Memory ω) : Prop where
  heap : memory.heap.Paired pairs other.heap
  output_eq : memory.output = other.output

/-- The same names are bound, to counterparts. -/
def Bindings.Paired (pairs : Pairing) (bindings other : Bindings) : Prop :=
  ∀ name : String, Option.Rel (Value.Paired pairs) bindings[name]? other[name]?

/-- The items of two sequences are counterparts. -/
abbrev ItemsPaired (pairs : Pairing) (items items' : Array Value) : Prop :=
  List.Forall₂ (Value.Paired pairs) items.toList items'.toList

namespace Bindings.Paired

variable {bindings bindings' : Bindings}

theorem mono (hle : pairs ≤ later) (h : bindings.Paired pairs bindings') :
    bindings.Paired later bindings' :=
  fun name => option_rel_imp (h name) fun _ _ => .mono hle

theorem insert (h : bindings.Paired pairs bindings') (name : String) {a a' : Value}
    (ha : a.Paired pairs a') : Bindings.Paired pairs (bindings.insert name a)
      (bindings'.insert name a') := by
  intro other
  rw [Std.ExtTreeMap.getElem?_insert, Std.ExtTreeMap.getElem?_insert]
  split
  · exact .some ha
  · exact h other

theorem erase (h : bindings.Paired pairs bindings') (name : String) :
    Bindings.Paired pairs (bindings.erase name) (bindings'.erase name) := by
  intro other
  rw [Std.ExtTreeMap.getElem?_erase, Std.ExtTreeMap.getElem?_erase]
  split
  · exact .none
  · exact h other

theorem mem_iff (h : bindings.Paired pairs bindings') (name : String) :
    name ∈ bindings ↔ name ∈ bindings' := by
  have hname := h name
  rw [Std.ExtTreeMap.mem_iff_isSome_getElem?, Std.ExtTreeMap.mem_iff_isSome_getElem?]
  generalize bindings[name]? = found at hname
  generalize bindings'[name]? = found' at hname
  cases hname <;> simp

theorem lookup (h : bindings.Paired pairs bindings') (name : String) :
    Outcomes (Value.Paired pairs) (bindings.lookup name) (bindings'.lookup name) := by
  have hname := h name
  unfold Bindings.lookup
  generalize bindings[name]? = found at hname
  generalize bindings'[name]? = found' at hname
  cases hname with
  | some hvalue => exact .ok hvalue
  | none =>
      dsimp only
      cases Builtin.ofName? name with
      | none => exact .error _
      | some function => exact .ok (.same nofun)

/-- A session starts with no list. -/
theorem seeded (sessionName : String) :
    Bindings.Paired pairs (.seeded sessionName) (.seeded sessionName) := by
  have hempty : Bindings.Paired pairs ∅ ∅ := fun name => by
    rw [Std.ExtTreeMap.getElem?_empty]
    exact .none
  refine ((hempty.insert "session_name" ?_).insert "joined" ?_).insert "history" ?_
  all_goals exact .same nofun

end Bindings.Paired

/-! ### Expressions -/

namespace Action

variable {α : Type} {related : Pairing → α → α → Prop}

theorem ofExcept_together {x y : Except RuntimeFault α} (h : Outcomes (related pairs) x y) :
    Together Memory.Paired related pairs (ofExcept x : Action ω α) (ofExcept y) := by
  cases h with
  | ok hrelated => exact together_pure hrelated
  | error fault => exact together_throw fault

theorem fromHeap_together {result result' : Heap → Except RuntimeFault α}
    (h : ∀ heap heap', heap.Paired pairs heap' →
      Outcomes (related pairs) (result heap) (result' heap')) :
    Together Memory.Paired related pairs (fromHeap result : Action ω α) (fromHeap result') :=
  together_get_bind fun _ _ hmemory => ofExcept_together (h _ _ hmemory.heap)

theorem place_together {made made' : Made} (h : made.Paired pairs made') :
    Together Memory.Paired Value.Paired pairs (place made : Action ω Value) (place made') := by
  cases h with
  | value hvalue => exact together_pure hvalue
  | list hitems =>
      rintro ⟨heap, output⟩ ⟨heap', output'⟩ ⟨hheap, houtput⟩
      refine .ok (pairs.le_add heap.lists.size heap'.lists.size) (.list ?_)
        ⟨hheap.allocate hitems, houtput⟩
      exact pairs.add_self _ _

theorem write_together [Sink ω] (text : String) :
    Together Memory.Paired Done pairs (write text : Action ω Unit) (write text) := by
  rintro ⟨heap, output⟩ ⟨heap', output'⟩ ⟨hheap, houtput : output = output'⟩
  subst houtput
  unfold write
  dsimp only
  split
  · exact .ok le_rfl trivial ⟨hheap, rfl⟩
  · exact .error _ le_rfl ⟨hheap, rfl⟩

end Action

theorem applyBinary_together (op : BinaryOp) {a a' b b' : Value} (ha : a.Paired pairs a')
    (hb : b.Paired pairs b') :
    Together Memory.Paired Value.Paired pairs (applyBinary op a b : Action ω Value)
      (applyBinary op a' b') := by
  apply (Action.fromHeap_together fun _ _ hheap => combine_of_paired hheap op ha hb).bind
  exact fun _ _ _ _ hmade => Action.place_together hmade

theorem applyUnary_together (hroom : room.Alike room') (op : UnaryOp) {a a' : Value}
    (ha : a.Paired pairs a') :
    Together Memory.Paired Value.Paired pairs (applyUnary room op a : Action ω Value)
      (applyUnary room' op a') := by
  unfold applyUnary
  split
  · refine Action.fromHeap_together fun _ _ hheap => ?_
    rw [Value.isTruthy_eq_of_paired hheap hroom ha]
    exact .ok (.same nofun)
  · exact Action.ofExcept_together (signed_of_paired op ha)

theorem call_together [Sink ω] (hroom : room.Alike room') {a a' : Value} (ha : a.Paired pairs a')
    {items items' : List Value} (hitems : List.Forall₂ (Value.Paired pairs) items items') :
    Together Memory.Paired Value.Paired pairs (a.call room items : Action ω Value)
      (a'.call room' items') := by
  cases ha with
  | list => exact together_throw _
  | same hvalue =>
      cases a with
      | builtin function =>
          have hmake {later : Pairing} (hle : pairs ≤ later) :
              Together Memory.Paired Value.Paired later
                (do
                  let made ← Action.fromHeap fun heap => function.result room heap items
                  Action.place made : Action ω Value)
                (do
                  let made ← Action.fromHeap fun heap => function.result room' heap items'
                  Action.place made) := by
            have hlater := Value.forall₂_paired_mono hle hitems
            refine (Action.fromHeap_together fun _ _ hheap =>
              result_of_paired hheap hroom function hlater).bind ?_
            exact fun _ _ _ _ hmade => Action.place_together hmade
          unfold Value.call
          dsimp only
          split
          · refine together_get_bind fun memory memory' hmemory => ?_
            rw [printedLine_eq_of_paired hmemory.heap hroom hitems]
            exact (Action.write_together _).bind fun later hle _ _ _ => hmake hle
          · exact hmake le_rfl
      | _ => exact together_throw _

theorem decides_eq_of_paired (hheap : heap.Paired pairs heap') (hroom : room.Alike room')
    (op : LogicalOp) {a a' : Value} (ha : a.Paired pairs a') :
    op.decides room heap a = op.decides room' heap' a' := by
  unfold LogicalOp.decides
  rw [Value.isTruthy_eq_of_paired hheap hroom ha]

mutual

theorem eval_together {ω : Type} [Sink ω] {pairs : Pairing} {room room' : Room}
    {bindings bindings' : Bindings} (hroom : room.Alike room')
    (hbindings : bindings.Paired pairs bindings') (expr : Expr) :
    Together Memory.Paired Value.Paired pairs (eval room bindings expr : Action ω Value)
      (eval room' bindings' expr) := by
  match expr with
  | .int value => exact together_pure (.same nofun)
  | .float value => exact together_pure (.same nofun)
  | .str text => exact together_pure (.same nofun)
  | .bool value => exact together_pure (.same nofun)
  | .none => exact together_pure (.same nofun)
  | .name name => exact Action.ofExcept_together (hbindings.lookup name)
  | .list items =>
      apply (evalAll_together hroom hbindings .nil items).bind
      exact fun _ _ _ _ hvalues => Action.place_together (.list hvalues)
  | .unary op operand =>
      apply (eval_together hroom hbindings operand).bind
      exact fun _ _ _ _ hvalue => applyUnary_together hroom op hvalue
  | .binary op left right =>
      -- The right operand may add pairs, and what the left one gave stays paired.
      refine (eval_together hroom hbindings left).bind fun later hle x x' hx => ?_
      apply (eval_together hroom (hbindings.mono hle) right).bind
      exact fun _ hlater _ _ hy => applyBinary_together op (hx.mono hlater) hy
  | .compare first rest =>
      apply (eval_together hroom hbindings first).bind
      exact fun _ hle _ _ hvalue => evalChain_together hroom (hbindings.mono hle) hvalue rest
  | .logical op left right =>
      refine (eval_together hroom hbindings left).bind fun later hle a a' ha => ?_
      refine together_get_bind fun memory memory' hmemory => ?_
      show Together _ _ _ (if _ then _ else _) (if _ then _ else _)
      rw [decides_eq_of_paired hmemory.heap hroom op ha]
      split
      · exact together_pure ha
      · exact eval_together hroom (hbindings.mono hle) right
  | .call callee arguments =>
      refine (eval_together hroom hbindings callee).bind fun later hle a a' ha => ?_
      apply (evalAll_together hroom (hbindings.mono hle) .nil arguments).bind
      exact fun _ hlater _ _ hvalues => call_together hroom (ha.mono hlater) hvalues
  | .index container position =>
      refine (eval_together hroom hbindings container).bind fun later hle a a' ha => ?_
      apply (eval_together hroom (hbindings.mono hle) position).bind
      exact fun _ hlater _ _ hb => Action.fromHeap_together fun _ _ hheap =>
        Value.itemAt_of_paired hheap hroom (ha.mono hlater) hb
  | .attribute object name =>
      apply (eval_together hroom hbindings object).bind
      exact fun _ _ _ _ hvalue => Action.ofExcept_together (Value.attributeOf_of_paired name hvalue)
termination_by structural expr

theorem evalAll_together {ω : Type} [Sink ω] {pairs : Pairing} {room room' : Room}
    {bindings bindings' : Bindings} (hroom : room.Alike room')
    (hbindings : bindings.Paired pairs bindings') {values values' : Array Value}
    (hvalues : ItemsPaired pairs values values') (exprs : List Expr) :
    Together Memory.Paired ItemsPaired pairs
      (evalAll room bindings values exprs : Action ω (Array Value))
      (evalAll room' bindings' values' exprs) := by
  cases exprs with
  | nil => exact together_pure hvalues
  | cons expr rest =>
      refine (eval_together hroom hbindings expr).bind fun later hle a a' ha => ?_
      refine evalAll_together hroom (hbindings.mono hle) ?_ rest
      unfold ItemsPaired
      rw [Array.toList_push, Array.toList_push]
      exact List.rel_append (Value.forall₂_paired_mono hle hvalues) (.cons ha .nil)
termination_by structural exprs

theorem evalChain_together {ω : Type} [Sink ω] {pairs : Pairing} {room room' : Room}
    {bindings bindings' : Bindings} (hroom : room.Alike room')
    (hbindings : bindings.Paired pairs bindings') {a a' : Value} (ha : a.Paired pairs a')
    (chain : List (CompareOp × Expr)) :
    Together Memory.Paired Value.Paired pairs (evalChain room bindings a chain : Action ω Value)
      (evalChain room' bindings' a' chain) := by
  cases chain with
  | nil => exact together_pure (.same nofun)
  | cons link rest =>
      obtain ⟨op, expr⟩ := link
      refine (eval_together hroom hbindings expr).bind fun later hle b b' hb => ?_
      have hcompares : Together Memory.Paired (fun _ => Eq) later
          (Action.fromHeap fun heap => a.compares room heap op b : Action ω Bool)
          (Action.fromHeap fun heap => a'.compares room' heap op b') := by
        refine Action.fromHeap_together fun _ _ hheap => ?_
        rw [Value.compares_eq_of_paired hheap hroom op (ha.mono hle) hb]
        exact .refl fun _ _ => rfl
      refine hcompares.bind fun last hlast holds _ heq => ?_
      subst heq
      show Together _ _ _ (if _ then _ else _) (if _ then _ else _)
      split
      · exact evalChain_together hroom (hbindings.mono (hle.trans hlast)) (hb.mono hlast) rest
      · exact together_pure (.same nofun)
termination_by structural chain

end

/-! ### Statements -/

structure Machine.Paired (pairs : Pairing) (machine other : Machine ω) : Prop where
  bindings : machine.bindings.Paired pairs other.bindings
  heap : machine.heap.Paired pairs other.heap
  output_eq : machine.output = other.output

namespace Execution

section Steps

variable {α ε : Type} {related : Pairing → α → α → Prop}

theorem onMemory_together {action action' : Bindings → Action ω α}
    (h : ∀ bindings bindings', bindings.Paired pairs bindings' →
      Together Memory.Paired related pairs (action bindings) (action' bindings')) :
    Together Machine.Paired related pairs (onMemory action) (onMemory action') := by
  rintro ⟨bindings, heap, output⟩ ⟨bindings', heap', output'⟩ ⟨hbindings, hheap, houtput⟩
  have hends := h bindings bindings' hbindings ⟨heap, output⟩ ⟨heap', output'⟩ ⟨hheap, houtput⟩
  unfold onMemory
  dsimp only
  generalize action bindings ⟨heap, output⟩ = x at hends
  generalize action' bindings' ⟨heap', output'⟩ = y at hends
  cases hends with
  | ok hle hrelated hmemory =>
      exact .ok hle hrelated ⟨hbindings.mono hle, hmemory.heap, hmemory.output_eq⟩
  | error fault hle hmemory =>
      exact .error fault hle ⟨hbindings.mono hle, hmemory.heap, hmemory.output_eq⟩

theorem ofExcept_together_self (x : Except ε α) :
    Together Machine.Paired (fun _ => Eq) pairs (ofExcept x : ExecutionOn ω ε α) (ofExcept x) := by
  cases x with
  | ok value => exact together_pure rfl
  | error fault => exact together_throw fault

theorem asScript_together {execution execution' : ExecutionOn ω RuntimeFault α}
    (h : Together Machine.Paired related pairs execution execution') :
    Together Machine.Paired related pairs (asScript execution) (asScript execution') := by
  intro machine machine' hmachine
  have hends := h machine machine' hmachine
  unfold asScript
  generalize execution machine = x at hends
  generalize execution' machine' = y at hends
  cases hends with
  | ok hle hrelated hafter => exact .ok hle hrelated hafter
  | error fault hle hafter => exact .error _ hle hafter

end Steps

theorem bindName_together (name : String) {a a' : Value} (ha : a.Paired pairs a') :
    Together Machine.Paired Done pairs (bind name a : ExecutionOn ω RuntimeFault Unit)
      (bind name a') := by
  rintro ⟨bindings, heap, output⟩ ⟨bindings', heap', output'⟩ ⟨hbindings, hheap, houtput⟩
  exact .ok le_rfl trivial ⟨hbindings.insert name ha, hheap, houtput⟩

theorem unbind_together (name : String) :
    Together Machine.Paired Done pairs (unbind name : ExecutionOn ω RuntimeFault Unit)
      (unbind name) := by
  rintro ⟨bindings, heap, output⟩ ⟨bindings', heap', output'⟩ ⟨hbindings, hheap, houtput⟩
  unfold unbind
  dsimp only
  simp only [hbindings.mem_iff name]
  split
  · exact .ok le_rfl trivial ⟨hbindings.erase name, hheap, houtput⟩
  · exact .error _ le_rfl ⟨hbindings, hheap, houtput⟩

theorem assignItem_together {a a' b b' c c' : Value} (ha : a.Paired pairs a')
    (hb : b.Paired pairs b') (hc : c.Paired pairs c') :
    Together Machine.Paired Done pairs (assignItem a b c : ExecutionOn ω RuntimeFault Unit)
      (assignItem a' b' c') := by
  rintro ⟨bindings, heap, output⟩ ⟨bindings', heap', output'⟩ ⟨hbindings, hheap, houtput⟩
  have hplace := Value.assignmentPlace_of_paired hheap ha hb
  unfold assignItem
  dsimp only
  generalize a.assignmentPlace heap b = place at hplace
  generalize a'.assignmentPlace heap' b' = place' at hplace
  cases hplace with
  | error fault => exact .error fault le_rfl ⟨hbindings, hheap, houtput⟩
  | @ok place place' hsame =>
      obtain ⟨id, position⟩ := place
      obtain ⟨id', _⟩ := place'
      obtain ⟨hpair, rfl⟩ := hsame
      exact .ok le_rfl trivial ⟨hbindings, hheap.setItem hpair position hc, houtput⟩

theorem evaluate_together [Sink ω] (hroom : room.Alike room') (expr : Expr) :
    Together Machine.Paired Value.Paired pairs
      (evaluate room expr : ExecutionOn ω RuntimeFault Value) (evaluate room' expr) :=
  onMemory_together fun _ _ hbindings => eval_together hroom hbindings expr

theorem itemAt_together (hroom : room.Alike room') {a a' b b' : Value} (ha : a.Paired pairs a')
    (hb : b.Paired pairs b') :
    Together Machine.Paired Value.Paired pairs
      (onMemory fun _ => Action.fromHeap fun heap => a.itemAt room heap b :
        ExecutionOn ω RuntimeFault Value)
      (onMemory fun _ => Action.fromHeap fun heap => a'.itemAt room' heap b') :=
  onMemory_together fun _ _ _ => Action.fromHeap_together fun _ _ hheap =>
    Value.itemAt_of_paired hheap hroom ha hb

end Execution

open Execution

variable [Sink ω]

theorem execute_together (hroom : room.Alike room') (statement : Statement) :
    Together Machine.Paired Done pairs
      (execute room statement : ExecutionOn ω RuntimeFault Unit) (execute room' statement) := by
  cases statement with
  | expr expr =>
      exact (evaluate_together hroom expr).bind fun _ _ _ _ _ => together_pure trivial
  | assign target expr =>
      cases target with
      | name name =>
          apply (evaluate_together hroom expr).bind
          exact fun _ _ _ _ ha => bindName_together name ha
      | index container position =>
          refine (evaluate_together hroom expr).bind fun _ _ a a' ha => ?_
          refine (evaluate_together hroom container).bind fun _ hle b b' hb => ?_
          apply (evaluate_together hroom position).bind
          exact fun _ hlater _ _ hc =>
            assignItem_together (hb.mono hlater) hc (ha.mono (hle.trans hlater))
  | augAssign op target expr =>
      cases target with
      | name name =>
          refine (evaluate_together hroom (.name name)).bind fun _ _ a a' ha => ?_
          refine (evaluate_together hroom expr).bind fun _ hle b b' hb => ?_
          apply (onMemory_together fun _ _ _ => applyBinary_together op (ha.mono hle) hb).bind
          exact fun _ _ _ _ hc => bindName_together name hc
      | index container position =>
          refine (evaluate_together hroom container).bind fun _ _ a a' ha => ?_
          refine (evaluate_together hroom position).bind fun _ hindex b b' hb => ?_
          refine (itemAt_together hroom (ha.mono hindex) hb).bind fun _ hread c c' hc => ?_
          refine (evaluate_together hroom expr).bind fun _ hvalue d d' hd => ?_
          apply (onMemory_together fun _ _ _ => applyBinary_together op (hc.mono hvalue) hd).bind
          intro _ hresult e e' he
          have hlast := hread.trans (hvalue.trans hresult)
          exact assignItem_together (ha.mono (hindex.trans hlast)) (hb.mono hlast) he
  | delete name => exact unbind_together name
  | pass => exact together_pure trivial

theorem run_together (hroom : room.Alike room') (program : List Statement) :
    Together Machine.Paired Done pairs
      (run room program : ExecutionOn ω RuntimeFault Unit) (run room' program) := by
  induction program generalizing pairs with
  | nil => exact together_pure trivial
  | cons statement rest ih => exact (execute_together hroom statement).bind fun _ _ _ _ _ => ih

/-- A source runs in the same way from counterparts, whatever places their lists have. -/
theorem executeBlock_together (hroom : room.Alike room') (source : String) :
    Together Machine.Paired Done pairs
      (executeBlock room source : ExecutionOn ω ScriptFault Unit) (executeBlock room' source) := by
  refine (ofExcept_together_self (readProgram source)).bind fun _ _ program _ heq => ?_
  subst heq
  exact asScript_together (run_together hroom program)

theorem executeSubmission_together (hroom : room.Alike room') (source : String) :
    Together Machine.Paired (fun pairs => Option.Rel (Value.Paired pairs)) pairs
      (executeSubmission room source : ExecutionOn ω ScriptFault (Option Value))
      (executeSubmission room' source) := by
  refine (ofExcept_together_self (readTokens source)).bind fun _ _ tokens _ heq => ?_
  subst heq
  cases Expr.ofTokens tokens with
  | ok expr =>
      apply (asScript_together (evaluate_together hroom expr)).bind
      intro _ _ a a' ha
      refine together_pure ?_
      simp only [ha.eq_none_iff]
      split
      · exact .none
      · exact .some ha
  | error fault =>
      refine (ofExcept_together_self
        ((Statement.ofTokens tokens).mapError ScriptFault.syntactic)).bind ?_
      intro _ _ program _ heq
      subst heq
      apply (asScript_together (run_together hroom program)).bind
      exact fun _ _ _ _ _ => together_pure .none

end Roundtable.Script
