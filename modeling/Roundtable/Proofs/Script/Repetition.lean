import Roundtable.Proofs.Script.Arithmetic
import Roundtable.Proofs.Script.Transaction
/-!
Repetition. A sequence that is multiplied by an integer, on either side, becomes as many copies of itself
in a row, which are made by doubling. How large they would be together is known before any is made, so
that a repetition is either all of the copies or a fault. The copies of a list stand in a list of their
own, and what is assigned to its items stays there.
-/

namespace Roundtable.Script

/-! ### Copies -/

/-- Repeating by doubling gives as many copies as it is told to, seen as lists. -/
theorem repeated_eq_flatten {α β : Type} [Append α] {view : α → List β} {empty : α}
    (hempty : view empty = []) (happend : ∀ x y, view (x ++ y) = view x ++ view y) (part : α)
    (times : Nat) : view (repeated empty part times) = (List.replicate times (view part)).flatten := by
  induction times using Nat.strongRecOn with
  | ind times ih =>
      rw [repeated]
      split
      · rename_i hzero
        rw [hempty, hzero]
        rfl
      · rename_i hpositive
        have hhalf := ih (times / 2) (Nat.div_lt_self (Nat.pos_of_ne_zero hpositive) (by decide))
        extract_lets half
        have htwice : view (half ++ half) =
            (List.replicate (times / 2 + times / 2) (view part)).flatten := by
          rw [happend, hhalf, ← List.flatten_append, List.replicate_append_replicate]
        split
        · have heven : times / 2 + times / 2 = times := by omega
          rw [htwice, heven]
        · have hodd : List.replicate times (view part) =
              List.replicate (times / 2 + times / 2) (view part) ++ [view part] := by
            rw [← List.replicate_succ']
            congr 1
            omega
          rw [happend, htwice, hodd, List.flatten_append, List.flatten_singleton]

theorem repeated_text (text : String) (times : Nat) :
    repeated "" text times = String.join (List.replicate times text) := by
  apply String.toList_inj.1
  rw [repeated_eq_flatten rfl (fun _ _ => String.toList_append), String.toList_join, List.flatMap_def,
    List.map_replicate]

theorem join_replicate_empty (times : Nat) : String.join (List.replicate times "") = "" := by
  apply String.toList_inj.1
  rw [String.toList_join, List.flatMap_def, List.map_replicate]
  exact List.flatten_replicate_nil

theorem repeated_items (items : Array Value) (times : Nat) :
    repeated #[] items times = (List.replicate times items.toList).flatten.toArray := by
  apply Array.toList_inj.1
  rw [repeated_eq_flatten rfl fun _ _ => Array.toList_append]

/-! ### Outcomes -/

variable {ω : Type}

/-- The outcome of repeating a sequence of `size` bytes or items. Without anything to repeat it is
`empty`, however often; otherwise the product alone decides between all of the copies and a fault. -/
structure IsRepetition (memory : Memory ω) (size limit times : Nat)
    (empty copies outcome : EStateM.Result RuntimeFault (Memory ω) Value) : Prop where
  of_nothing : size = 0 ∨ times = 0 → outcome = empty
  tooLarge_iff : outcome = .error .tooLarge memory ↔ limit < size * times
  of_fits : size * times ≤ limit → outcome = copies

section Outcomes

variable {memory : Memory ω} {size limit times : Nat} {count sequence partner : Value} {word : Int64}

theorem place_ne_tooLarge (made : Made) :
    Action.place made memory ≠ .error .tooLarge memory := by
  cases made <;> exact nofun

/-- The check comes after the case of nothing to repeat, and would decide that case in the same way. -/
theorem isRepetition_of_made {made : Except RuntimeFault Made} {empty copies : Made} {nothing : Prop}
    [Decidable nothing] (hmade : made = if nothing then .ok empty
      else if size * times > limit then .error .tooLarge else .ok copies)
    (hnothing : nothing ↔ size = 0 ∨ times = 0) (hempty : nothing → empty = copies) :
    IsRepetition memory size limit times (Action.place empty memory) (Action.place copies memory)
      ((Action.ofExcept made >>= Action.place) memory) := by
  have hchecked : made = if size * times > limit then .error .tooLarge else .ok copies := by
    by_cases h : nothing
    · have hproduct : size * times = 0 := Nat.mul_eq_zero.2 (hnothing.1 h)
      rw [hmade, if_pos h, hempty h, hproduct, if_neg (Nat.not_lt_zero limit)]
    · rw [hmade, if_neg h]
  refine ⟨fun h => ?_, ?_, fun hfits => ?_⟩
  · rw [hmade, if_pos (hnothing.2 h)]
    rfl
  · rw [hchecked]
    split
    · rename_i hlarge
      exact iff_of_true rfl hlarge
    · rename_i hfits
      exact iff_of_false (place_ne_tooLarge copies) hfits
  · rw [hchecked, if_neg (Nat.not_lt.2 hfits)]
    rfl

theorem Value.CountsAs.repetitions?_eq (h : count.CountsAs word) :
    count.repetitions? = some (max word.toInt 0).toNat := by
  cases h with
  | int word =>
      have hcount : (max word.toInt 0).toNat = word.toInt.toNat := by omega
      rw [hcount]
      rfl
  | bool truth => cases truth <;> rfl

theorem applyBinary_of_combine {op : BinaryOp} {left right : Value}
    {made : Except RuntimeFault Made} (h : combine memory.heap op left right = made) :
    applyBinary op left right memory = (Action.ofExcept made >>= Action.place) memory := by
  rw [← h]
  rfl

/-- A sequence is no number, and says no number of copies. -/
theorem numberless_of_sequence (hsequence : sequence.type = .str ∨ sequence.type = .list) :
    sequence.numeric? = none ∧ sequence.repetitions? = none := by
  cases sequence with
  | str | list => exact ⟨rfl, rfl⟩
  | _ => simp [Value.type] at hsequence

/-- Of a product with a sequence only repetition is left. -/
theorem combine_mul_sequence (heap : Heap) (hsequence : sequence.type = .str ∨ sequence.type = .list)
    (partner : Value) :
    combine heap .mul sequence partner =
      ((repeatBy? heap sequence partner).or (repeatBy? heap partner sequence)).getD
        (.error (.type (.notOperands .mul sequence.type partner.type))) ∧
    combine heap .mul partner sequence =
      ((repeatBy? heap partner sequence).or (repeatBy? heap sequence partner)).getD
        (.error (.type (.notOperands .mul partner.type sequence.type))) := by
  unfold combine
  rw [(numberless_of_sequence hsequence).1]
  refine ⟨rfl, ?_⟩
  cases partner.numeric? <;> rfl

theorem repeatBy?_of_repetitions?_eq_none (heap : Heap) (h : count.repetitions? = none) :
    repeatBy? heap sequence count = none := by
  unfold repeatBy?
  rw [h]
  cases sequence <;> rfl

theorem repeatBy?_of_countsAs (heap : Heap) (h : count.CountsAs word) (sequence : Value) :
    repeatBy? heap count sequence = none := by
  cases h <;> rfl

/-- Both orders of a sequence and a count make what the sequence and the count repeat to. -/
theorem applyBinary_mul_of_repeatBy? {made : Except RuntimeFault Made}
    (hsequence : sequence.type = .str ∨ sequence.type = .list) (hcount : count.CountsAs word)
    (hmade : repeatBy? memory.heap sequence count = some made) :
    applyBinary .mul sequence count memory = (Action.ofExcept made >>= Action.place) memory ∧
      applyBinary .mul count sequence memory = (Action.ofExcept made >>= Action.place) memory := by
  have hother := repeatBy?_of_countsAs memory.heap hcount sequence
  obtain ⟨hfirst, hsecond⟩ := combine_mul_sequence memory.heap hsequence count
  rw [hmade, Option.some_or, Option.getD_some] at hfirst
  rw [hmade, hother, Option.none_or, Option.getD_some] at hsecond
  exact ⟨applyBinary_of_combine hfirst, applyBinary_of_combine hsecond⟩

/-- A partner that is no integer says no number of copies, and neither does the sequence. -/
theorem applyBinary_mul_of_not_countsAs (hsequence : sequence.type = .str ∨ sequence.type = .list)
    (hpartner : ∀ word, ¬partner.CountsAs word) :
    applyBinary .mul sequence partner memory =
      .error (.type (.notOperands .mul sequence.type partner.type)) memory ∧
    applyBinary .mul partner sequence memory =
      .error (.type (.notOperands .mul partner.type sequence.type)) memory := by
  have hcount : partner.repetitions? = none := by
    cases partner with
    | int word => exact absurd (.int word) (hpartner word)
    | bool truth => exact absurd (.bool truth) (hpartner _)
    | _ => rfl
  obtain ⟨hfirst, hsecond⟩ := combine_mul_sequence memory.heap hsequence partner
  rw [repeatBy?_of_repetitions?_eq_none memory.heap hcount,
    repeatBy?_of_repetitions?_eq_none memory.heap (numberless_of_sequence hsequence).2] at hfirst hsecond
  exact ⟨applyBinary_of_combine hfirst, applyBinary_of_combine hsecond⟩

theorem repeatString_isRepetition (hcount : count.CountsAs word) (text : String) :
    let times := (max word.toInt 0).toNat
    IsRepetition memory text.utf8ByteSize (2 ^ 28) times (.ok (.str "") memory)
      (.ok (.str (String.join (List.replicate times text))) memory)
      (applyBinary .mul (.str text) count memory) ∧
    applyBinary .mul count (.str text) memory = applyBinary .mul (.str text) count memory := by
  intro times
  have hrepeats : repeatBy? memory.heap (.str text) count = some (repeatString text times) := by
    unfold repeatBy?
    rw [hcount.repetitions?_eq]
  obtain ⟨hfirst, hsecond⟩ := applyBinary_mul_of_repeatBy? (.inl rfl) hcount hrepeats
  have hmade : repeatString text times = if text.isEmpty ∨ times = 0 then .ok (.value (.str ""))
      else if text.utf8ByteSize * times > 2 ^ 28 then .error .tooLarge
      else .ok (.value (.str (String.join (List.replicate times text)))) := by
    rw [← repeated_text]
    rfl
  rw [hsecond, hfirst]
  refine ⟨isRepetition_of_made hmade ?_ ?_, rfl⟩
  · rw [String.isEmpty_iff, String.utf8ByteSize_eq_zero_iff]
  · rw [String.isEmpty_iff]
    rintro (rfl | hnone)
    · rw [join_replicate_empty]
    · rw [hnone]
      rfl

theorem repeatItems_isRepetition (hcount : count.CountsAs word) (id : ListId) :
    let times := (max word.toInt 0).toNat
    let placed (items : List Value) : EStateM.Result RuntimeFault (Memory ω) Value :=
      .ok (.list memory.heap.lists.size) ⟨(memory.heap.allocate items.toArray).1, memory.output⟩
    IsRepetition memory (memory.heap.items id).size (2 ^ 24) times (placed [])
      (placed (List.replicate times (memory.heap.items id).toList).flatten)
      (applyBinary .mul (.list id) count memory) ∧
    applyBinary .mul count (.list id) memory = applyBinary .mul (.list id) count memory := by
  intro times placed
  have hrepeats : repeatBy? memory.heap (.list id) count =
      some (repeatItems (memory.heap.items id) times) := by
    unfold repeatBy?
    rw [hcount.repetitions?_eq]
  obtain ⟨hfirst, hsecond⟩ := applyBinary_mul_of_repeatBy? (.inr rfl) hcount hrepeats
  generalize memory.heap.items id = items at *
  have hmade : repeatItems items times = if items.isEmpty ∨ times = 0 then .ok (.list #[])
      else if items.size * times > 2 ^ 24 then .error .tooLarge
      else .ok (.list (List.replicate times items.toList).flatten.toArray) := by
    rw [← repeated_items]
    rfl
  rw [hsecond, hfirst]
  refine ⟨isRepetition_of_made hmade ?_ ?_, rfl⟩
  · rw [Array.isEmpty_iff_size_eq_zero]
  · rw [Array.isEmpty_iff]
    rintro (rfl | hnone)
    · rw [Array.toList_empty, List.flatten_replicate_nil]
    · rw [hnone]
      rfl

end Outcomes

/-! ### Assignments to the copies -/

/-- Of the lists that were there none but `target` has changed. -/
structure Machine.ChangesOnly (target : ListId) (before after : Machine ω) : Prop where
  size_le : before.heap.lists.size ≤ after.heap.lists.size
  items_eq : ∀ id < before.heap.lists.size, id ≠ target →
    after.heap.items id = before.heap.items id

/-- Executed on this machine, the statement assigns to the items of no list but `target`: where it
assigns to a subscript, the container comes to no other list, if it comes to one. A plain assignment
evaluates its value before its target. -/
def Statement.AssignsOnlyIn [Sink ω] (room : Room) (target : ListId) (machine : Machine ω) :
    Statement → Prop
  | .assign (.index container _) source => ∀ value start id middle,
      Execution.evaluate room source machine = .ok value start →
      Execution.evaluate room container start = .ok (.list id) middle → id = target
  | .augAssign _ (.index container _) _ => ∀ id middle,
      Execution.evaluate room container machine = .ok (.list id) middle → id = target
  | _ => True

/-- Each statement that the program comes to assigns to the items of no list but `target`. -/
def RunAssignsOnlyIn [Sink ω] (room : Room) (target : ListId) (program : List Statement)
    (machine : Machine ω) : Prop :=
  ∀ done statement rest middle, program = done ++ statement :: rest →
    run room done machine = .ok () middle → statement.AssignsOnlyIn room target middle

/-- The statements that assign to an item of the list that a name is bound to. -/
inductive Statement.AssignsItemOf (name : String) : Statement → Prop where
  | assign (position expr : Expr) :
      AssignsItemOf name (.assign (.index (.name name) position) expr)
  | augAssign (op : BinaryOp) (position expr : Expr) :
      AssignsItemOf name (.augAssign op (.index (.name name) position) expr)

section Assignments

open Execution

variable {target : ListId} {first second third machine : Machine ω}

theorem Machine.ChangesOnly.trans (hfirst : first.ChangesOnly target second)
    (hsecond : second.ChangesOnly target third) : first.ChangesOnly target third where
  size_le := Nat.le_trans hfirst.size_le hsecond.size_le
  items_eq id hid hne := (hsecond.items_eq id (Nat.lt_of_lt_of_le hid hfirst.size_le) hne).trans
    (hfirst.items_eq id hid hne)

theorem Machine.changesOnly_of_heap_eq (h : second.heap = first.heap) :
    first.ChangesOnly target second :=
  ⟨Nat.le_of_eq (by rw [h]), fun id _ _ => by rw [h]⟩

theorem assignItem_changesOnly {container : Value} (h : ∀ id, container = .list id → id = target)
    (index value : Value) : Leads (Machine.ChangesOnly target)
      (assignItem container index value : ExecutionOn ω RuntimeFault Unit) := by
  rintro ⟨bindings, heap, output⟩
  unfold assignItem
  dsimp only
  cases hplace : container.assignmentPlace heap index with
  | error fault => exact Machine.changesOnly_of_heap_eq rfl
  | ok place =>
      obtain ⟨id, slot⟩ := place
      have hid : id = target := h id (assignmentPlace_eq_ok Room.empty hplace).1
      subst hid
      refine ⟨Nat.le_of_eq (heap.size_setItem id slot value).symm, ?_⟩
      exact fun other _ hne => heap.items_setItem_of_ne slot value hne.symm

variable [Sink ω]

theorem Machine.Untouched.changesOnly (h : first.Untouched second) :
    first.ChangesOnly target second :=
  ⟨h.heap_growsTo.size_le, fun _ hid _ => h.items_eq hid⟩

/-- What touches nothing can come before. -/
theorem changesOnly_bind {ε α β : Type} {execution : ExecutionOn ω ε α}
    {next : α → ExecutionOn ω ε β} (hexecution : ExecutionOn.TouchesNothing execution)
    (hnext : ∀ value middle, execution machine = .ok value middle →
      middle.ChangesOnly target (stateAfter (next value middle))) :
    machine.ChangesOnly target (stateAfter ((execution >>= next) machine)) := by
  have hmachine := hexecution machine
  cases hrun : execution machine with
  | ok value middle =>
      rw [hrun] at hmachine
      rw [bind_of_ok hrun]
      exact hmachine.changesOnly.trans (hnext value middle hrun)
  | error fault middle =>
      rw [hrun] at hmachine
      rw [bind_eq_error.2 (.inl hrun)]
      exact hmachine.changesOnly

omit [Sink ω] in
theorem unbind_changesOnly (name : String) : Leads (Machine.ChangesOnly target)
    (unbind name : ExecutionOn ω RuntimeFault Unit) := by
  rintro ⟨bindings, heap, output⟩
  unfold unbind
  dsimp only
  split <;> exact Machine.changesOnly_of_heap_eq rfl

/-- Only an assignment to an item changes a list. -/
theorem execute_changesOnly {room : Room} {statement : Statement}
    (h : statement.AssignsOnlyIn room target machine) :
    machine.ChangesOnly target (stateAfter (execute room statement machine)) := by
  have hevaluate (expr : Expr) : ExecutionOn.TouchesNothing
      (evaluate room expr : ExecutionOn ω RuntimeFault Value) := touchesNothing_evaluate room expr
  have hbound (name : String) (value : Value) (middle : Machine ω) :
      middle.ChangesOnly target (stateAfter (bind name value middle)) :=
    Machine.changesOnly_of_heap_eq rfl
  cases statement with
  | expr expr =>
      exact changesOnly_bind (hevaluate expr) fun _ _ _ => Machine.changesOnly_of_heap_eq rfl
  | assign place expr =>
      cases place with
      | name name => exact changesOnly_bind (hevaluate expr) fun value middle _ => hbound name value middle
      | index container position =>
          refine changesOnly_bind (hevaluate expr) fun value start hvalue => ?_
          refine changesOnly_bind (hevaluate container) fun sequence middle hsequence => ?_
          refine changesOnly_bind (hevaluate position) fun index last _ => ?_
          refine assignItem_changesOnly (fun id hid => ?_) index value last
          exact h value start id middle hvalue (hid ▸ hsequence)
  | augAssign op place expr =>
      cases place with
      | name name =>
          refine changesOnly_bind (hevaluate _) fun current _ _ => ?_
          refine changesOnly_bind (hevaluate expr) fun operand _ _ => ?_
          exact changesOnly_bind (touchesNothing_applyBinary op current operand) fun value last _ =>
            hbound name value last
      | index container position =>
          refine changesOnly_bind (hevaluate container) fun sequence middle hsequence => ?_
          refine changesOnly_bind (hevaluate position) fun index _ _ => ?_
          refine changesOnly_bind (touchesNothing_fromHeap _) fun current _ _ => ?_
          refine changesOnly_bind (hevaluate expr) fun operand _ _ => ?_
          refine changesOnly_bind (touchesNothing_applyBinary op current operand) fun value last _ => ?_
          exact assignItem_changesOnly (fun id hid => h id middle (hid ▸ hsequence)) index value last
  | delete name => exact unbind_changesOnly name machine
  | pass => exact Machine.changesOnly_of_heap_eq rfl

/-- A run whose assignments all go to the items of one list leaves all others as they were, also when
it ends at fault. -/
theorem run_changesOnly {room : Room} {program : List Statement}
    (h : RunAssignsOnlyIn room target program machine) :
    machine.ChangesOnly target (stateAfter (run room program machine)) := by
  induction program generalizing machine with
  | nil => exact Machine.changesOnly_of_heap_eq rfl
  | cons statement rest ih =>
      have hfirst := execute_changesOnly (h [] statement rest machine rfl rfl)
      unfold run
      cases hrun : execute room statement machine with
      | ok value middle =>
          rw [hrun] at hfirst
          rw [bind_of_ok hrun]
          refine hfirst.trans (ih fun done later others last hrest hdone => ?_)
          exact h (statement :: done) later others last (congrArg _ hrest)
            (bind_eq_ok.2 ⟨value, middle, hrun, hdone⟩)
      | error fault middle =>
          rw [hrun] at hfirst
          rw [bind_eq_error.2 (.inl hrun)]
          exact hfirst

/-! What is assigned through a name goes to the list that the name is bound to, since an assignment to an
item binds nothing. -/

variable {name : String} {room : Room} {statement : Statement}

theorem evaluate_name (room : Room) {value : Value} (h : machine.bindings[name]? = some value) :
    evaluate room (.name name) machine = .ok value machine := by
  obtain ⟨bindings, heap, output⟩ := machine
  have hlookup : bindings.lookup name = .ok value := by
    unfold Bindings.lookup
    rw [h]
  unfold evaluate onMemory
  simp only [eval, hlookup]
  rfl

theorem assignsOnlyIn_of_name (h : statement.AssignsItemOf name)
    (hname : machine.bindings[name]? = some (.list target)) :
    statement.AssignsOnlyIn room target machine := by
  cases h with
  | assign position expr =>
      intro value start id middle hvalue hcontainer
      have hstart := ((touchesNothing_evaluate room expr).of_ok hvalue).bindings_eq
      rw [evaluate_name room (hstart ▸ hname)] at hcontainer
      cases hcontainer
      rfl
  | augAssign op position expr =>
      intro id middle hcontainer
      rw [evaluate_name room hname] at hcontainer
      cases hcontainer
      rfl

theorem execute_bindings_eq (h : statement.AssignsItemOf name)
    (hrun : execute room statement first = .ok () second) : second.bindings = first.bindings := by
  rcases execute_turns hrun with huntouched | ⟨edit, hmade, hturns⟩
  · exact huntouched.bindings_eq
  · cases h <;> cases hmade <;> exact hturns.1

theorem runAssignsOnlyIn_of_name {program : List Statement}
    (hprogram : ∀ statement ∈ program, statement.AssignsItemOf name)
    (hname : machine.bindings[name]? = some (.list target)) :
    RunAssignsOnlyIn room target program machine := by
  rintro done statement rest middle rfl hrun
  -- the induction is on what was run before the statement: none of it rebinds the name
  induction done generalizing machine with
  | nil =>
      cases hrun
      exact assignsOnlyIn_of_name (hprogram statement (by simp)) hname
  | cons before done ih =>
      obtain ⟨_, next, hfirst, hdone⟩ := bind_eq_ok.1 hrun
      obtain ⟨hbefore, hothers⟩ := List.forall_mem_cons.1 hprogram
      have hbindings := execute_bindings_eq hbefore hfirst
      exact ih (hbindings ▸ hname) hothers hdone

end Assignments

section Product

variable [Sink ω] {count : Value} {word : Int64}

/-- Repetition is exact and bounded. An integer on either side of a sequence repeats it: to an empty
sequence where there is nothing to repeat, to a fault exactly if all of the copies together exceed the
limit, and otherwise to the copies in a row. Those of a list make a new list, and no run that assigns to
its items alone, by whatever subscripts, changes a list that was there. A partner that is no integer is at
fault. -/
theorem repetition_exact (room : Room) (memory : Memory ω) (hcount : count.CountsAs word) :
    let product (left right : Value) := applyBinary .mul left right memory
    let times := (max word.toInt 0).toNat
    let new : ListId := memory.heap.lists.size
    let placed (items : List Value) : EStateM.Result RuntimeFault (Memory ω) Value :=
      .ok (.list new) ⟨(memory.heap.allocate items.toArray).1, memory.output⟩
    (∀ text : String,
      IsRepetition memory text.utf8ByteSize (2 ^ 28) times (.ok (.str "") memory)
        (.ok (.str (String.join (List.replicate times text))) memory) (product (.str text) count) ∧
      product count (.str text) = product (.str text) count) ∧
    (∀ id : ListId,
      IsRepetition memory (memory.heap.items id).size (2 ^ 24) times (placed [])
        (placed (List.replicate times (memory.heap.items id).toList).flatten)
        (product (.list id) count) ∧
      product count (.list id) = product (.list id) count) ∧
    (∀ id < new, ∀ (later : Machine ω) program, id < later.heap.lists.size →
      RunAssignsOnlyIn room new program later →
      (stateAfter (run room program later)).heap.items id = later.heap.items id) ∧
    ∀ sequence partner : Value, sequence.type = .str ∨ sequence.type = .list →
      (∀ word, ¬partner.CountsAs word) →
      product sequence partner =
        .error (.type (.notOperands .mul sequence.type partner.type)) memory ∧
      product partner sequence =
        .error (.type (.notOperands .mul partner.type sequence.type)) memory := by
  intro product times new placed
  refine ⟨repeatString_isRepetition hcount, repeatItems_isRepetition hcount, ?_,
    fun _ _ => applyBinary_mul_of_not_countsAs⟩
  intro id hid later program hlater hprogram
  exact (run_changesOnly hprogram).items_eq id hlater (Nat.ne_of_lt hid)

/-- Four bytes repeated `2 ^ 62` times are too many, though 64 bits would count them as none. A list that
holds itself is repeated twice, and what is assigned to the copies does not reach it. -/
theorem repetition_exact_of_wrapping :
    let memory : Memory Output := ⟨⟨#[#[.int 7, .list 0]]⟩, .unbounded⟩
    let often : Value := .int 4611686018427387904
    let later : Machine := ⟨(∅ : Bindings).insert "b" (.list 1),
      ⟨#[#[.int 7, .list 0], #[.int 7, .list 0, .int 7, .list 0]]⟩, .unbounded⟩
    let program : List Statement :=
      [.assign (.index (.name "b") (.int 0)) (.int 1),
        .augAssign .add (.index (.name "b") (.int 2)) (.int 1)]
    often.CountsAs 4611686018427387904 ∧ (Value.int 2).CountsAs 2 ∧
      applyBinary .mul often (.str "abcd") memory = .error .tooLarge memory ∧
      applyBinary .mul (.int 2) (.list 0) memory = .ok (.list 1) ⟨later.heap, memory.output⟩ ∧
      (stateAfter (run Room.empty program later)).heap.items 0 = #[.int 7, .list 0] := by
  intro memory often later program
  have hoften : often.CountsAs 4611686018427387904 := .int _
  have htwo : (Value.int 2).CountsAs 2 := .int 2
  obtain ⟨hstring, -⟩ := repetition_exact Room.empty memory hoften
  obtain ⟨-, hlist, hkeeps, -⟩ := repetition_exact Room.empty memory htwo
  obtain ⟨hlarge, hlargeSame⟩ := hstring "abcd"
  obtain ⟨hcopies, hcopiesSame⟩ := hlist 0
  refine ⟨hoften, htwo, ?_, ?_, ?_⟩
  · exact hlargeSame.trans (hlarge.tooLarge_iff.2 (by decide +kernel))
  · exact hcopiesSame.trans (hcopies.of_fits (by decide +kernel))
  · have hprogram : ∀ statement ∈ program, Statement.AssignsItemOf "b" statement :=
      List.forall_mem_cons.2 ⟨.assign _ _, List.forall_mem_cons.2 ⟨.augAssign _ _ _, nofun⟩⟩
    exact hkeeps 0 (by decide) later program (by decide) (runAssignsOnlyIn_of_name hprogram (by rfl))

end Product

end Roundtable.Script
