import Roundtable.Proofs.Script.Silence
/-!
Augmented assignment beside the plain one. For a name the two are the same steps in the same order.
For a subscript the plain one evaluates the container and the position a second time, after the value
has been computed: if these write nothing, the second evaluation comes to the same place of the same
list, or to a list that nothing leads to, which nobody sees.
-/

namespace Roundtable.Script

open Execution

variable {ω : Type} [Sink ω]

/-! ### Evaluations in steps -/

section Steps

variable {α β : Type}

omit [Sink ω] in
theorem onMemory_bind (action : Bindings → Action ω α) (next : Bindings → α → Action ω β) :
    onMemory (fun bindings => action bindings >>= next bindings) =
      onMemory action >>= fun value => onMemory fun bindings => next bindings value := by
  funext ⟨bindings, heap, output⟩
  cases hrun : action bindings ⟨heap, output⟩ with
  | ok value memory =>
      have haction : onMemory action ⟨bindings, heap, output⟩ =
          .ok value ⟨bindings, memory.heap, memory.output⟩ := by
        unfold onMemory
        simp only [hrun]
      rw [bind_of_ok haction]
      unfold onMemory
      dsimp only
      rw [bind_of_ok hrun]
  | error fault memory =>
      have haction : onMemory action ⟨bindings, heap, output⟩ =
          .error fault ⟨bindings, memory.heap, memory.output⟩ := by
        unfold onMemory
        simp only [hrun]
      rw [bind_eq_error.2 (.inl haction)]
      unfold onMemory
      dsimp only
      rw [bind_eq_error.2 (.inl hrun)]

theorem evaluate_binary (room : Room) (op : BinaryOp) (left right : Expr) :
    (evaluate room (.binary op left right) : ExecutionOn ω RuntimeFault Value) =
      (do
        let x ← evaluate room left
        let y ← evaluate room right
        onMemory fun _ => applyBinary op x y) := by
  refine (onMemory_bind _ _).trans (congrArg _ (funext fun x => ?_))
  exact onMemory_bind _ _

theorem evaluate_index (room : Room) (container position : Expr) :
    (evaluate room (.index container position) : ExecutionOn ω RuntimeFault Value) =
      (do
        let sequence ← evaluate room container
        let index ← evaluate room position
        onMemory fun _ => Action.fromHeap fun heap => sequence.itemAt room heap index) := by
  refine (onMemory_bind _ _).trans (congrArg _ (funext fun sequence => ?_))
  exact onMemory_bind _ _

end Steps

theorem execute_augAssign_name (room : Room) (op : BinaryOp) (name : String) (expr : Expr) :
    (execute room (.augAssign op (.name name) expr) : ExecutionOn ω RuntimeFault Unit) =
      execute room (.assign (.name name) (.binary op (.name name) expr)) := by
  simp only [execute, evaluate_binary, bind_assoc]

/-! ### Runs that agree -/

section Agreement

variable {α : Type} {room : Room} {bindings : Bindings} {heap heap' start : Heap} {output : ω}
  {pairs : Pairing} {machine : Machine ω} {expr : Expr} {value : Value}

omit [Sink ω] in
/-- What comes first is the same, and what follows agrees if it is reached. -/
theorem agree_bind {execution : ExecutionOn ω RuntimeFault α}
    {next next' : α → ExecutionOn ω RuntimeFault Unit}
    (hafter : EndsWithin ((execution >>= next) machine))
    (h : ∀ value middle, execution machine = .ok value middle →
      EndsWithin (next value middle) → Agree (next value middle) (next' value middle)) :
    Agree ((execution >>= next) machine) ((execution >>= next') machine) := by
  cases hrun : execution machine with
  | ok value middle =>
      rw [bind_of_ok hrun] at hafter ⊢
      rw [bind_of_ok hrun]
      exact h value middle hrun hafter
  | error fault middle =>
      rw [bind_eq_error.2 (.inl hrun), bind_eq_error.2 (.inl hrun)]
      exact ⟨rfl, .refl middle⟩

/-- A change to a list that names do not lead to changes nothing that they lead to. -/
theorem items_setItem_of_not_reaches (hstart : bindings.Within start) (hgrows : start.GrowsTo heap)
    {id : ListId} (hid : ¬bindings.Reaches start id) (slot : Nat) (value : Value) :
    ∀ other, bindings.Reaches start other →
      (heap.setItem id slot value).items other = start.items other := by
  intro other hother
  have hne : id ≠ other := fun heq => hid (heq ▸ hother)
  rw [Heap.items_setItem_of_ne heap slot value hne, hgrows.items_eq other (hstart other hother)]

omit [Sink ω] in
/-- An assignment to counterparts. The list is one that names lead to, and then it is the same on both
sides, or nobody sees the change. -/
theorem assignItem_agree {sequence sequence' index index' : Value}
    (hstart : bindings.Within start) (hgrows : start.GrowsTo heap) (hmore : heap.GrowsTo heap')
    (hle : bindings.itself start ≤ pairs) (hheap : heap.Paired pairs heap')
    (hsequence : sequence.Paired pairs sequence') (hindex : index.Paired pairs index')
    (hafter : EndsWithin (assignItem sequence index value ⟨bindings, heap, output⟩)) :
    Agree (assignItem sequence index value ⟨bindings, heap, output⟩)
      (assignItem sequence' index' value ⟨bindings, heap', output⟩) := by
  have hplace := Value.assignmentPlace_of_paired hheap hsequence hindex
  unfold assignItem at hafter ⊢
  dsimp only at hafter ⊢
  generalize sequence.assignmentPlace heap index = place at hplace hafter
  generalize sequence'.assignmentPlace heap' index' = place' at hplace
  cases hplace with
  | error fault =>
      exact ⟨rfl, Machine.alike_of_items_eq fun id hid => hmore.items_eq id (hafter id hid)⟩
  | @ok place place' hsame =>
      obtain ⟨id, slot⟩ := place
      obtain ⟨id', _⟩ := place'
      obtain ⟨hpair, rfl⟩ := hsame
      change pairs id id' at hpair
      refine ⟨rfl, ?_⟩
      -- A list that names lead to is its own counterpart. A change to any other is not seen.
      by_cases hreach : bindings.Reaches start id
      · have hself : pairs id id := hle id id ⟨rfl, hreach⟩
        obtain rfl : id = id' := (hheap.one_to_one hself hpair).1 rfl
        have hset := hmore.setItem (hheap.known hpair).1 slot value
        exact Machine.alike_of_items_eq fun other hother => hset.items_eq other (hafter other hother)
      · have hreach' : ¬bindings.Reaches start id' := fun hreach' => hreach <| by
          have hself : pairs id' id' := hle id' id' ⟨rfl, hreach'⟩
          rwa [(hheap.one_to_one hpair hself).2 rfl]
        have hkeep := items_setItem_of_not_reaches hstart hgrows hreach slot value
        have hkeep' :=
          items_setItem_of_not_reaches hstart (hgrows.trans hmore) hreach' slot value
        refine Machine.alike_of_items_eq fun other hother => ?_
        have hother := (Bindings.reaches_iff_of_items_eq hkeep other).2 hother
        rw [hkeep other hother, hkeep' other hother]

/-- The container and the position of a subscript are evaluated again when its value is computed, to
counterparts of what they were. -/
theorem subscript_again {container position : Expr} {sequence index : Value}
    {middle finish : Memory ω} {later : Heap} (hwithin : bindings.Within heap)
    (hcontainer : container.Silent room bindings heap)
    (hposition : position.Silent room bindings heap)
    (hsequence : eval room bindings container ⟨heap, output⟩ = .ok sequence middle)
    (hindex : eval room bindings position middle = .ok index finish)
    (hgrows : finish.heap.GrowsTo later) (output' : ω) :
    ∃ pairs sequence' index' after, bindings.itself heap ≤ pairs ∧ later.GrowsTo after ∧
      later.Paired pairs after ∧ sequence.Paired pairs sequence' ∧ index.Paired pairs index' ∧
      ∀ next : Value → Value → ExecutionOn ω RuntimeFault Unit,
        (do
          let sequence ← evaluate room container
          let index ← evaluate room position
          next sequence index) ⟨bindings, later, output'⟩ =
            next sequence' index' ⟨bindings, after, output'⟩ := by
  have hfirst : heap.GrowsTo middle.heap := eval_growsTo hsequence
  have hsecond : middle.heap.GrowsTo finish.heap := eval_growsTo hindex
  have hself := bindings.paired_itself heap
  obtain ⟨now, sequence', inner, hle, hpairSequence, hinner, hrun⟩ := hcontainer.again hself
    (hwithin.paired (hfirst.trans (hsecond.trans hgrows))) hsequence output'
  obtain ⟨last, index', after, hle', hpairIndex, hafter, hrun'⟩ :=
    (hposition.of_growsTo hwithin hfirst).again (hself.mono hle) hinner hindex output'
  refine ⟨last, sequence', index', after, hle.trans hle', ?_, hafter.growsTo hgrows (.refl _),
    hpairSequence.mono hle', hpairIndex, fun next => ?_⟩
  · exact (eval_growsTo hrun).trans (eval_growsTo hrun')
  · rw [bind_of_ok (evaluate_eq_ok.2 ⟨_, hrun, rfl⟩), bind_of_ok (evaluate_eq_ok.2 ⟨_, hrun', rfl⟩)]

/-- An augmented assignment to a subscript agrees with the plain one if the subscript writes nothing. -/
theorem augAssign_index_agree {op : BinaryOp} {container position : Expr}
    (hwithin : bindings.Within heap) (hcontainer : container.Silent room bindings heap)
    (hposition : position.Silent room bindings heap) :
    Agree (execute room (.augAssign op (.index container position) expr) ⟨bindings, heap, output⟩)
      (execute room (.assign (.index container position)
        (.binary op (.index container position) expr)) ⟨bindings, heap, output⟩) := by
  have hstart : (⟨bindings, heap, output⟩ : Machine ω).bindings.Within heap := hwithin
  have hafter := execute_endsWithin room (.augAssign op (.index container position) expr) hstart
  simp only [execute, evaluate_binary, evaluate_index, bind_assoc] at hafter ⊢
  refine agree_bind hafter fun sequence afterContainer hsequence hafter => ?_
  refine agree_bind hafter fun index afterPosition hindex hafter => ?_
  refine agree_bind hafter fun current afterRead hcurrent hafter => ?_
  refine agree_bind hafter fun operand afterOperand hoperand hafter => ?_
  refine agree_bind hafter fun value last hvalue hend => ?_
  obtain ⟨middle, hfirst, rfl⟩ := evaluate_eq_ok.1 hsequence
  obtain ⟨finish, hsecond, rfl⟩ := evaluate_eq_ok.1 hindex
  have huntouched : Machine.Untouched ⟨bindings, finish.heap, finish.output⟩ last :=
    ((touchesNothing_fromHeap _).of_ok hcurrent).trans
      (((touchesNothing_evaluate room expr).of_ok hoperand).trans
        ((touchesNothing_applyBinary op current operand).of_ok hvalue))
  obtain ⟨lastBindings, later, lastOutput⟩ := last
  obtain rfl : lastBindings = bindings := huntouched.bindings_eq
  have hgrows : finish.heap.GrowsTo later := huntouched.heap_growsTo
  obtain ⟨pairs, sequence', index', after, hle, hmore, hpaired, hpairSequence, hpairIndex, hagain⟩ :=
    subscript_again hwithin hcontainer hposition hfirst hsecond hgrows lastOutput
  -- The plain assignment is at the same point now, but with counterparts of the container and index.
  rw [hagain]
  have hbefore : heap.GrowsTo later :=
    (eval_growsTo hfirst).trans ((eval_growsTo hsecond).trans hgrows)
  exact assignItem_agree hwithin hbefore hmore hle hpaired hpairSequence hpairIndex hend

end Agreement

/-- Augmented assignments agree with plain ones. To a name they are the same steps. To a subscript whose
container and position write nothing they end in the same way, with the same bindings and output and
the same items of all lists that names lead to. -/
theorem augAssign_agrees (room : Room) {machine : Machine ω} {container position : Expr}
    (hwithin : machine.bindings.Within machine.heap)
    (hcontainer : container.Silent room machine.bindings machine.heap)
    (hposition : position.Silent room machine.bindings machine.heap) (op : BinaryOp) (expr : Expr) :
    (∀ name (any : Machine ω), execute room (.augAssign op (.name name) expr) any =
      execute room (.assign (.name name) (.binary op (.name name) expr)) any) ∧
    let augmented := execute room (.augAssign op (.index container position) expr) machine
    let plain := execute room (.assign (.index container position)
      (.binary op (.index container position) expr)) machine
    outcome augmented = outcome plain ∧ (stateAfter augmented).Alike (stateAfter plain) :=
  ⟨fun name any => congrFun (execute_augAssign_name room op name expr) any,
    augAssign_index_agree hwithin hcontainer hposition⟩

/-- `[x][0][0] += 1` after `x = [7]`. The subscript of the plain assignment makes the outer list twice,
and the item of the one list `x` is 8 afterwards. -/
theorem augAssign_agrees_of_shared_list :
    let start : Machine := .fresh (.seeded "Campfire") .unbounded
    let machine := stateAfter (run Room.empty [.assign (.name "x") (.list [.int 7])] start)
    let container : Expr := .index (.list [.name "x"]) (.int 0)
    let augmented :=
      execute Room.empty (.augAssign .add (.index container (.int 0)) (.int 1)) machine
    let plain := execute Room.empty (.assign (.index container (.int 0))
      (.binary .add (.index container (.int 0)) (.int 1))) machine
    (stateAfter plain).heap.items 0 = #[.int 8] ∧
      outcome augmented = outcome plain ∧ (stateAfter augmented).Alike (stateAfter plain) := by
  intro start machine container augmented plain
  have hwithin : machine.bindings.Within machine.heap :=
    run_endsWithin Room.empty _ (Bindings.within_seeded "Campfire")
  have hcontainer : container.Silent Room.empty machine.bindings machine.heap := by
    rfl
  have hposition : (Expr.int 0).Silent Room.empty machine.bindings machine.heap := by
    rfl
  exact ⟨by rfl, (augAssign_agrees Room.empty hwithin hcontainer hposition .add (.int 1)).2⟩

end Roundtable.Script
