import Roundtable.Proofs.Script.Growth
import Roundtable.Proofs.Session.Standing
/-!
Statements as transactions. A statement evaluates all its expressions before it changes anything, and
then makes at most one edit: it binds or unbinds one name, or replaces one item of one list. So a
fault leaves the bindings and the lists as they were, and a program that is broken off leaves what
the statements before the faulty one have made of them.

New lists do not count as a change, since nothing that was there leads to them; what was written
before a fault stays written.
-/

namespace Roundtable.Script

namespace Heap

variable {first second third : Heap}

/-- Every list of the first heap is in the second, with the same items. -/
structure GrowsTo (first second : Heap) : Prop where
  size_le : first.lists.size ≤ second.lists.size
  items_eq : ∀ id < first.lists.size, second.items id = first.items id

theorem GrowsTo.refl (heap : Heap) : heap.GrowsTo heap :=
  ⟨Nat.le_refl _, fun _ _ => rfl⟩

theorem GrowsTo.trans (hfirst : first.GrowsTo second) (hsecond : second.GrowsTo third) :
    first.GrowsTo third where
  size_le := Nat.le_trans hfirst.size_le hsecond.size_le
  items_eq id hid :=
    (hsecond.items_eq id (Nat.lt_of_lt_of_le hid hfirst.size_le)).trans (hfirst.items_eq id hid)

theorem growsTo_allocate (heap : Heap) (items : Array Value) :
    heap.GrowsTo (heap.allocate items).1 where
  size_le := by simp [allocate]
  items_eq _ hid := heap.items_allocate_of_lt items hid

theorem size_setItem (heap : Heap) (id : ListId) (slot : Nat) (value : Value) :
    (heap.setItem id slot value).lists.size = heap.lists.size :=
  Array.size_modify ..

theorem size_items_setItem (heap : Heap) (id other : ListId) (slot : Nat) (value : Value) :
    ((heap.setItem id slot value).items other).size = (heap.items other).size := by
  by_cases h : id = other
  · subst h
    rw [items_setItem_self, Array.size_setIfInBounds]
  · rw [items_setItem_of_ne heap slot value h]

/-- Replacing an item of a new list is no change to what was there. -/
theorem GrowsTo.setItem_of_le (h : first.GrowsTo second) {id : ListId}
    (hid : first.lists.size ≤ id) (slot : Nat) (value : Value) :
    first.GrowsTo (second.setItem id slot value) where
  size_le := by rw [size_setItem]; exact h.size_le
  items_eq other hother := by
    rw [items_setItem_of_ne second slot value (Nat.ne_of_gt (Nat.lt_of_lt_of_le hother hid))]
    exact h.items_eq other hother

theorem GrowsTo.setItem (h : first.GrowsTo second) {id : ListId} (hid : id < first.lists.size)
    (slot : Nat) (value : Value) :
    (first.setItem id slot value).GrowsTo (second.setItem id slot value) where
  size_le := by rw [size_setItem, size_setItem]; exact h.size_le
  items_eq other hother := by
    rw [size_setItem] at hother
    by_cases heq : id = other
    · subst heq
      rw [items_setItem_self, items_setItem_self, h.items_eq id hid]
    · rw [items_setItem_of_ne _ slot value heq, items_setItem_of_ne _ slot value heq]
      exact h.items_eq other hother

end Heap

variable {ω : Type} [Sink ω]

theorem Memory.Grows.heap_growsTo {before after : Memory ω} (h : before.Grows after) :
    before.heap.GrowsTo after.heap := by
  induction h with
  | refl => exact .refl _
  | tail _ hstep ih =>
      cases hstep with
      | write => exact ih
      | allocate heap output items => exact ih.trans (heap.growsTo_allocate items)

/-- No binding and no list that was there has changed. -/
structure Machine.Untouched (before after : Machine ω) : Prop where
  bindings_eq : after.bindings = before.bindings
  heap_growsTo : before.heap.GrowsTo after.heap
  output_reaches : Sink.Reaches before.output after.output

theorem Machine.Untouched.refl (machine : Machine ω) : machine.Untouched machine :=
  ⟨rfl, .refl _, Sink.reaches_refl _⟩

theorem Machine.Untouched.trans {first second third : Machine ω} (hfirst : first.Untouched second)
    (hsecond : second.Untouched third) : first.Untouched third where
  bindings_eq := hsecond.bindings_eq.trans hfirst.bindings_eq
  heap_growsTo := hfirst.heap_growsTo.trans hsecond.heap_growsTo
  output_reaches := hfirst.output_reaches.trans hsecond.output_reaches

/-- An execution that changes no binding and no list that is there. -/
abbrev ExecutionOn.TouchesNothing {ε α : Type} (execution : ExecutionOn ω ε α) : Prop :=
  Leads Machine.Untouched execution

/-- An execution that has changed nothing when it is at fault. -/
def ExecutionOn.FaultsUntouched {ε α : Type} (execution : ExecutionOn ω ε α) : Prop :=
  ∀ before fault after, execution before = .error fault after → before.Untouched after

section Executions

open Execution

variable {ε α β : Type}

theorem ExecutionOn.TouchesNothing.of_ok {execution : ExecutionOn ω ε α}
    (h : ExecutionOn.TouchesNothing execution) {before after : Machine ω} {value : α}
    (hrun : execution before = .ok value after) : before.Untouched after := by
  have hbefore := h before
  rw [hrun] at hbefore
  exact hbefore

theorem ExecutionOn.TouchesNothing.faultsUntouched {execution : ExecutionOn ω ε α}
    (h : ExecutionOn.TouchesNothing execution) : ExecutionOn.FaultsUntouched execution := by
  intro before fault after hrun
  have hbefore := h before
  rw [hrun] at hbefore
  exact hbefore

/-- Only the last step of an execution may make an edit. -/
theorem ExecutionOn.FaultsUntouched.bind {execution : ExecutionOn ω ε α}
    {next : α → ExecutionOn ω ε β} (hexecution : ExecutionOn.TouchesNothing execution)
    (hnext : ∀ value, ExecutionOn.FaultsUntouched (next value)) :
    ExecutionOn.FaultsUntouched (execution >>= next) := by
  intro before fault after hrun
  rcases bind_eq_error.1 hrun with hbroken | ⟨value, middle, hfirst, hbroken⟩
  · exact hexecution.faultsUntouched before fault after hbroken
  · exact (hexecution.of_ok hfirst).trans (hnext value middle fault after hbroken)

theorem touchesNothing_onMemory {action : Bindings → Action ω α}
    (haction : ∀ bindings, (action bindings).Grows) :
    ExecutionOn.TouchesNothing (onMemory action) := by
  rintro ⟨bindings, heap, output⟩
  have hgrows := haction bindings ⟨heap, output⟩
  unfold onMemory
  cases hrun : action bindings ⟨heap, output⟩ with
  | ok value memory =>
      rw [hrun] at hgrows
      simp only [hrun]
      exact ⟨rfl, hgrows.heap_growsTo, hgrows.output_reaches⟩
  | error fault memory =>
      rw [hrun] at hgrows
      simp only [hrun]
      exact ⟨rfl, hgrows.heap_growsTo, hgrows.output_reaches⟩

theorem touchesNothing_evaluate (room : Room) (expr : Expr) :
    ExecutionOn.TouchesNothing (evaluate room expr : ExecutionOn ω RuntimeFault Value) :=
  touchesNothing_onMemory fun bindings => eval_grows room bindings expr

theorem touchesNothing_applyBinary (op : BinaryOp) (left right : Value) :
    ExecutionOn.TouchesNothing
      (onMemory fun _ => applyBinary op left right : ExecutionOn ω RuntimeFault Value) :=
  touchesNothing_onMemory fun _ => applyBinary_grows op left right

theorem touchesNothing_fromHeap (result : Heap → Except RuntimeFault Value) :
    ExecutionOn.TouchesNothing
      (onMemory fun _ => Action.fromHeap result : ExecutionOn ω RuntimeFault Value) :=
  touchesNothing_onMemory fun _ => Action.grows_fromHeap result

theorem faultsUntouched_bindName (name : String) (value : Value) :
    ExecutionOn.FaultsUntouched (bind name value : ExecutionOn ω RuntimeFault Unit) := by
  rintro ⟨bindings, heap, output⟩ fault after hrun
  cases hrun

theorem faultsUntouched_unbind (name : String) :
    ExecutionOn.FaultsUntouched (unbind name : ExecutionOn ω RuntimeFault Unit) := by
  rintro ⟨bindings, heap, output⟩ fault after hrun
  dsimp only [unbind] at hrun
  split at hrun
  · cases hrun
  · cases hrun
    exact .refl _

theorem faultsUntouched_assignItem (container index value : Value) :
    ExecutionOn.FaultsUntouched
      (assignItem container index value : ExecutionOn ω RuntimeFault Unit) := by
  rintro ⟨bindings, heap, output⟩ fault after hrun
  dsimp only [assignItem] at hrun
  split at hrun
  · cases hrun
  · cases hrun
    exact .refl _

/-- Whatever a statement was about to do, a fault leaves the bindings and the lists as they were. -/
theorem execute_faultsUntouched (room : Room) (statement : Statement) :
    ExecutionOn.FaultsUntouched (execute room statement : ExecutionOn ω RuntimeFault Unit) := by
  have hevaluate (expr : Expr) : ExecutionOn.TouchesNothing
      (evaluate room expr : ExecutionOn ω RuntimeFault Value) := touchesNothing_evaluate room expr
  unfold execute
  split
  · exact .bind (hevaluate _) fun _ => by rintro before fault after ⟨⟩
  · exact .bind (hevaluate _) fun value => faultsUntouched_bindName _ value
  · refine .bind (hevaluate _) fun value => ?_
    refine .bind (hevaluate _) fun sequence => ?_
    exact .bind (hevaluate _) fun index => faultsUntouched_assignItem sequence index value
  · refine .bind (hevaluate _) fun current => ?_
    refine .bind (hevaluate _) fun operand => ?_
    exact .bind (touchesNothing_applyBinary _ current operand) fun value =>
      faultsUntouched_bindName _ value
  · refine .bind (hevaluate _) fun sequence => ?_
    refine .bind (hevaluate _) fun index => ?_
    refine .bind (touchesNothing_fromHeap _) fun current => ?_
    refine .bind (hevaluate _) fun operand => ?_
    exact .bind (touchesNothing_applyBinary _ current operand) fun value =>
      faultsUntouched_assignItem sequence index value
  · exact faultsUntouched_unbind _
  · rintro before fault after ⟨⟩

end Executions

/-- A change to one binding or to one item of one list. -/
inductive Edit where
  | bind (name : String) (value : Value)
  | unbind (name : String)
  | replace (id : ListId) (slot : Nat) (value : Value)

/-- The edit turns the first machine into the second, except that lists may have been made. The list
of an item that is replaced was there before. -/
def Edit.Turns (before after : Machine ω) : Edit → Prop
  | bind name value =>
      after.bindings = before.bindings.insert name value ∧ before.heap.GrowsTo after.heap
  | unbind name =>
      name ∈ before.bindings ∧ after.bindings = before.bindings.erase name ∧
        before.heap.GrowsTo after.heap
  | replace id slot value =>
      after.bindings = before.bindings ∧ id < before.heap.lists.size ∧
        slot < (before.heap.items id).size ∧
        (before.heap.setItem id slot value).GrowsTo after.heap

/-- The values of a container and of a position stand for this slot in reading: whatever the items
of the list are, as long as there are as many, the one in the slot is read. -/
def Value.Denotes (room : Room) (length : Nat) (container index : Value) (id : ListId)
    (slot : Nat) : Prop :=
  ∀ (heap : Heap) (item : Value), (heap.items id).size = length →
    (heap.items id)[slot]? = some item → container.itemAt room heap index = .ok item

/-- Reading the subscript, from this machine on, reads this slot. -/
def Expr.ReadsSlot (room : Room) (container position : Expr) (start : Machine ω) (id : ListId)
    (slot : Nat) : Prop :=
  ∃ sequence index middle finish,
    Execution.evaluate room container start = .ok sequence middle ∧
    Execution.evaluate room position middle = .ok index finish ∧
    sequence.Denotes room (start.heap.items id).size index id slot

/-- The edits that a statement can make where it is executed. A plain assignment evaluates its value
before its target, an augmented one after it. -/
inductive Edit.MadeBy (room : Room) : Statement → Machine ω → Edit → Prop where
  | assign {name expr before middle value} :
      Execution.evaluate room expr before = .ok value middle →
      MadeBy room (.assign (.name name) expr) before (.bind name value)
  | augAssign {op name expr before value} :
      MadeBy room (.augAssign op (.name name) expr) before (.bind name value)
  | delete {name before} : MadeBy room (.delete name) before (.unbind name)
  | assignItem {container position expr before start id slot value} :
      Execution.evaluate room expr before = .ok value start →
      Expr.ReadsSlot room container position start id slot →
      MadeBy room (.assign (.index container position) expr) before (.replace id slot value)
  | augAssignItem {op container position expr before id slot value} :
      Expr.ReadsSlot room container position before id slot →
      MadeBy room (.augAssign op (.index container position) expr) before (.replace id slot value)

section Slots

variable {heap : Heap} {container index : Value} {id : ListId} {slot : Nat}

theorem position?_lt {place : Int} {length : Nat} (h : position? place length = some slot) :
    slot < length := by
  unfold position? at h
  dsimp only at h
  generalize (if place < 0 then place + length else place) = fromFront at h
  split at h
  · cases h
    omega
  · cases h

theorem assignmentPlace_eq_ok (room : Room)
    (h : container.assignmentPlace heap index = .ok (id, slot)) :
    container = .list id ∧ slot < (heap.items id).size ∧
      container.Denotes room (heap.items id).size index id slot := by
  unfold Value.assignmentPlace at h
  split at h
  · rename_i listed
    split at h
    · cases h
    · rename_i place hplace
      cases hposition : position? place (heap.items listed).size with
      | none =>
          rw [hposition] at h
          cases h
      | some found =>
          rw [hposition] at h
          cases h
          refine ⟨rfl, position?_lt hposition, ?_⟩
          intro other item hsize hitem
          have hlength : (Value.list id).length? room other = some (heap.items id).size := by
            rw [← hsize]
            rfl
          unfold Value.itemAt
          simp only [hlength, Value.type, hplace, hposition]
          show Option.elim ((other.items id)[slot]?) _ _ = _
          rw [hitem]
          rfl
  · cases h

end Slots

section Edits

open Execution

variable {room : Room} {before middle after : Machine ω}

theorem Machine.Untouched.items_eq (h : before.Untouched after) {id : ListId}
    (hid : id < before.heap.lists.size) : after.heap.items id = before.heap.items id :=
  h.heap_growsTo.items_eq id hid

theorem bindName_turns (h : before.Untouched middle) {name : String} {value : Value}
    (hrun : bind name value middle = .ok () after) : (Edit.bind name value).Turns before after := by
  obtain ⟨bindings, heap, output⟩ := middle
  cases hrun
  exact ⟨congrArg (·.insert name value) h.bindings_eq, h.heap_growsTo⟩

/-- An assignment to an item of a list that was there replaces the item in the slot that its
subscript denotes; in a new list nobody sees it. -/
theorem assignItem_turns (room : Room) (h : before.Untouched middle)
    {container index value : Value} (hrun : assignItem container index value middle = .ok () after) :
    before.Untouched after ∨ ∃ id slot, id < before.heap.lists.size ∧
      container.Denotes room (before.heap.items id).size index id slot ∧
      (Edit.replace id slot value).Turns before after := by
  obtain ⟨bindings, heap, output⟩ := middle
  dsimp only [assignItem] at hrun
  split at hrun
  · rename_i id slot hplace
    cases hrun
    obtain ⟨-, hslot, hdenotes⟩ := assignmentPlace_eq_ok room hplace
    by_cases hid : id < before.heap.lists.size
    · have hitems : heap.items id = before.heap.items id := h.items_eq hid
      rw [hitems] at hslot hdenotes
      exact .inr ⟨id, slot, hid, hdenotes, h.bindings_eq, hid, hslot,
        h.heap_growsTo.setItem hid slot value⟩
    · exact .inl ⟨h.bindings_eq, h.heap_growsTo.setItem_of_le (Nat.le_of_not_lt hid) slot value,
        h.output_reaches⟩
  · cases hrun

theorem execute_turns {statement : Statement} (hrun : execute room statement before = .ok () after) :
    before.Untouched after ∨
      ∃ edit : Edit, edit.MadeBy room statement before ∧ edit.Turns before after := by
  have evaluated {expr : Expr} {first second : Machine ω} {value : Value}
      (hvalue : evaluate room expr first = .ok value second) : first.Untouched second :=
    (touchesNothing_evaluate room expr).of_ok hvalue
  have applied {op : BinaryOp} {left right value : Value} {first second : Machine ω}
      (hvalue : onMemory (fun _ => applyBinary op left right) first = .ok value second) :
      first.Untouched second :=
    (touchesNothing_applyBinary op left right).of_ok hvalue
  unfold execute at hrun
  split at hrun
  · obtain ⟨value, middle, hvalue, hend⟩ := bind_eq_ok.1 hrun
    cases hend
    exact .inl (evaluated hvalue)
  · obtain ⟨value, middle, hvalue, hend⟩ := bind_eq_ok.1 hrun
    exact .inr ⟨_, .assign hvalue, bindName_turns (evaluated hvalue) hend⟩
  · obtain ⟨value, start, hvalue, hrun⟩ := bind_eq_ok.1 hrun
    obtain ⟨sequence, middle, hsequence, hrun⟩ := bind_eq_ok.1 hrun
    obtain ⟨index, finish, hindex, hend⟩ := bind_eq_ok.1 hrun
    have hstart := evaluated hvalue
    have h := (hstart.trans (evaluated hsequence)).trans (evaluated hindex)
    rcases assignItem_turns room h hend with hnone | ⟨id, slot, hid, hdenotes, hturns⟩
    · exact .inl hnone
    · rw [← hstart.items_eq hid] at hdenotes
      exact .inr ⟨_, .assignItem hvalue ⟨sequence, index, middle, finish, hsequence, hindex,
        hdenotes⟩, hturns⟩
  · obtain ⟨current, first, hcurrent, hrun⟩ := bind_eq_ok.1 hrun
    obtain ⟨operand, second, hoperand, hrun⟩ := bind_eq_ok.1 hrun
    obtain ⟨value, third, hvalue, hend⟩ := bind_eq_ok.1 hrun
    have h := ((evaluated hcurrent).trans (evaluated hoperand)).trans (applied hvalue)
    exact .inr ⟨_, .augAssign, bindName_turns h hend⟩
  · obtain ⟨sequence, middle, hsequence, hrun⟩ := bind_eq_ok.1 hrun
    obtain ⟨index, finish, hindex, hrun⟩ := bind_eq_ok.1 hrun
    obtain ⟨current, third, hcurrent, hrun⟩ := bind_eq_ok.1 hrun
    obtain ⟨operand, fourth, hoperand, hrun⟩ := bind_eq_ok.1 hrun
    obtain ⟨value, fifth, hvalue, hend⟩ := bind_eq_ok.1 hrun
    have hread := (evaluated hsequence).trans (evaluated hindex)
    have hcombined := ((touchesNothing_fromHeap _).of_ok hcurrent).trans (evaluated hoperand)
    have h := (hread.trans hcombined).trans (applied hvalue)
    rcases assignItem_turns room h hend with hnone | ⟨id, slot, hid, hdenotes, hturns⟩
    · exact .inl hnone
    · exact .inr ⟨_, .augAssignItem ⟨sequence, index, middle, finish, hsequence, hindex, hdenotes⟩,
        hturns⟩
  · obtain ⟨bindings, heap, output⟩ := before
    dsimp only [unbind] at hrun
    split at hrun
    · rename_i hbound
      cases hrun
      exact .inr ⟨_, .delete, hbound, rfl, .refl heap⟩
    · cases hrun
  · cases hrun
    exact .inl (.refl _)

end Edits

/-- What holds of a statement wherever it is executed, in bindings and lists of any shape. -/
structure Statement.Transactional (ω : Type) [Sink ω] (room : Room) (statement : Statement) :
    Prop where
  fault_untouched : ∀ (before after : Machine ω) fault,
    execute room statement before = .error fault after → before.Untouched after
  ok_turns : ∀ before after : Machine ω, execute room statement before = .ok () after →
    before.Untouched after ∨
      ∃ edit : Edit, edit.MadeBy room statement before ∧ edit.Turns before after
  length_eq : ∀ (before : Machine ω), ∀ id < before.heap.lists.size,
    ((stateAfter (execute room statement before)).heap.items id).size =
      (before.heap.items id).size
  output_reaches : ∀ before : Machine ω,
    Sink.Reaches before.output (stateAfter (execute room statement before)).output

section Programs

variable {room : Room} {before after : Machine ω}

omit [Sink ω] in
theorem Edit.Turns.length_eq {edit : Edit} (h : edit.Turns before after) {id : ListId}
    (hid : id < before.heap.lists.size) :
    (after.heap.items id).size = (before.heap.items id).size := by
  cases edit with
  | bind name value => rw [h.2.items_eq id hid]
  | unbind name => rw [h.2.2.items_eq id hid]
  | replace list slot value =>
      obtain ⟨-, -, -, hgrows⟩ := h
      rw [hgrows.items_eq id (by rw [Heap.size_setItem]; exact hid), Heap.size_items_setItem]

theorem Statement.transactional (room : Room) (statement : Statement) :
    Transactional ω room statement where
  fault_untouched before after fault := execute_faultsUntouched room statement before fault after
  ok_turns _ _ := execute_turns
  length_eq before id hid := by
    cases hrun : execute room statement before with
    | error fault after =>
        exact congrArg _ ((execute_faultsUntouched room statement _ _ _ hrun).items_eq hid)
    | ok value after =>
        rcases execute_turns hrun with hnone | ⟨edit, -, hturns⟩
        · exact congrArg _ (hnone.items_eq hid)
        · exact hturns.length_eq hid
  output_reaches := execute_onlyWrites room statement

/-- A program that is broken off has run the statements before the faulty one, and none after it. -/
theorem run_eq_error {program : List Statement} {fault : RuntimeFault}
    (hrun : run room program before = .error fault after) :
    ∃ done failing rest middle, program = done ++ failing :: rest ∧
      run room done before = .ok () middle ∧ execute room failing middle = .error fault after := by
  induction program generalizing before with
  | nil => cases hrun
  | cons statement rest ih =>
      rcases bind_eq_error.1 hrun with hfault | ⟨_, next, hfirst, hrest⟩
      · exact ⟨[], statement, rest, before, rfl, rfl, hfault⟩
      · obtain ⟨done, failing, others, middle, rfl, hdone, hfault⟩ := ih hrest
        exact ⟨statement :: done, failing, others, middle, rfl,
          bind_eq_ok.2 ⟨_, next, hfirst, hdone⟩, hfault⟩

theorem run_append_of_fault {done : List Statement} {failing : Statement} {middle : Machine ω}
    {fault : RuntimeFault} (hdone : run room done before = .ok () middle)
    (hfault : execute room failing middle = .error fault after) (rest : List Statement) :
    run room (done ++ failing :: rest) before = .error fault after := by
  induction done generalizing before with
  | nil =>
      cases hdone
      exact bind_eq_error.2 (.inl hfault)
  | cons statement done ih =>
      obtain ⟨_, next, hfirst, hdone⟩ := bind_eq_ok.1 hdone
      exact bind_eq_error.2 (.inr ⟨_, next, hfirst, ih hdone⟩)

/-- Statements are transactions, and a program that is broken off leaves the bindings and the lists
as the statements before the faulty one left them. Neither the roster nor the journal of a session
can change, and bytes that were written stay. -/
theorem execution_transactional {σ : Type} (room : Room) :
    (∀ statement, Statement.Transactional ω room statement) ∧
    (∀ expr, ExecutionOn.TouchesNothing
      (execute room (.expr expr) : ExecutionOn ω RuntimeFault Unit)) ∧
    (∀ statement (machine : Machine Output), machine.output.written.data.toList <+:
      (stateAfter (execute room statement machine)).output.written.data.toList) ∧
    (∀ statement (world : World σ ω),
      let script : ActivityOn ω σ Empty (Except ScriptFault Unit) :=
        Session.runScript fun room => Execution.asScript (execute room statement)
      (stateAfter (script world)).session.room = world.session.room) ∧
    ∀ program (before after : Machine ω) fault, run room program before = .error fault after →
      ∃ done failing rest middle, program = done ++ failing :: rest ∧
        run room done before = .ok () middle ∧ middle.Untouched after ∧
        ∀ others, run room (done ++ failing :: others) before = .error fault after := by
  refine ⟨Statement.transactional room, ?_, ?_, ?_, ?_⟩
  · intro expr before
    cases hrun : execute room (.expr expr) before with
    | error fault after => exact execute_faultsUntouched room _ _ _ _ hrun
    | ok value after =>
        obtain ⟨value, middle, hvalue, hend⟩ := bind_eq_ok.1 hrun
        cases hend
        exact (touchesNothing_evaluate room expr).of_ok hvalue
  · intro statement machine
    exact Output.written_prefix_of_reaches (execute_onlyWrites room statement machine)
  · intro statement world script
    have hkeeps : Session.KeepsStanding script := Session.keepsStanding_runScript _
    exact congrArg (fun standing => (⟨standing.roster, standing.journal⟩ : Room)) (hkeeps world)
  · intro program before after fault hrun
    obtain ⟨done, failing, rest, middle, hprogram, hdone, hfault⟩ := run_eq_error hrun
    exact ⟨done, failing, rest, middle, hprogram, hdone,
      execute_faultsUntouched room failing _ _ _ hfault, run_append_of_fault hdone hfault⟩

end Programs

/-- The second assignment of `x[0] = 5; x[1] = 6; x[0] = 7` is at fault, where `x` is a list of one
item. -/
theorem execution_transactional_of_short_list :
    let assignment (position value : Int64) : Statement :=
      .assign (.index (.name "x") (.int position)) (.int value)
    let program := [assignment 0 5, assignment 1 6, assignment 0 7]
    let before : Machine := ⟨(∅ : Bindings).insert "x" (.list 0), ⟨#[#[.int 1]]⟩, .unbounded⟩
    let after : Machine := ⟨before.bindings, ⟨#[#[.int 5]]⟩, .unbounded⟩
    run Room.empty program before = .error (.index .assignment) after ∧
      ∃ done failing rest middle, program = done ++ failing :: rest ∧
        run Room.empty done before = .ok () middle ∧ middle.Untouched after ∧
        ∀ others, run Room.empty (done ++ failing :: others) before =
          .error (.index .assignment) after := by
  intro assignment program before after
  have hrun : run Room.empty program before = .error (.index .assignment) after := by
    rfl
  exact ⟨hrun, (@execution_transactional Output _ Unit Room.empty).2.2.2.2 program before after
    _ hrun⟩

end Roundtable.Script
