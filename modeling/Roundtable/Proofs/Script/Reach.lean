import Roundtable.Proofs.Script.Pairing.Evaluation
import Roundtable.Proofs.Script.Transaction
import Roundtable.Proofs.Script.Value.Data
/-!
What names lead to. From the bindings on, scripts see the lists that their values lead to, and all of
these are in the heap: it is so when a session starts, and no program changes it. Two machines that
agree on these lists cannot be told apart, whatever other lists lie about in their heaps.
-/

namespace Roundtable.Script

variable {pairs : Pairing} {bindings bindings' : Bindings} {heap heap' later : Heap} {id : ListId}

namespace Bindings

/-- Some name leads to the list. -/
def Reaches (bindings : Bindings) (heap : Heap) (id : ListId) : Prop :=
  ∃ (name : String) (value : Value), bindings[name]? = some value ∧ id ∈ value.reachable heap

/-- Every list that names lead to is in the heap. -/
def Within (bindings : Bindings) (heap : Heap) : Prop :=
  ∀ id, bindings.Reaches heap id → id < heap.lists.size

/-- The lists that names lead to, each with itself. -/
def itself (bindings : Bindings) (heap : Heap) : Pairing :=
  fun i j => i = j ∧ bindings.Reaches heap i

theorem Reaches.item {inner : ListId} (h : bindings.Reaches heap id)
    (hitem : Value.list inner ∈ (heap.items id).toList) : bindings.Reaches heap inner := by
  obtain ⟨name, value, hvalue, hreach⟩ := h
  exact ⟨name, value, hvalue, Relation.ReflTransGen.tail hreach hitem⟩

/-- To show something of all lists that names lead to, it is enough to follow the items. -/
theorem Reaches.induct {motive : ListId → Prop} (h : bindings.Reaches heap id)
    (hname : ∀ (name : String) (id : ListId), bindings[name]? = some (.list id) → motive id)
    (hitem : ∀ outer inner, bindings.Reaches heap outer → motive outer →
      Value.list inner ∈ (heap.items outer).toList → motive inner) : motive id := by
  obtain ⟨name, value, hvalue, hreach⟩ := h
  change Relation.ReflTransGen _ _ _ at hreach
  generalize hend : Value.list id = finish at hreach
  induction hreach generalizing id with
  | refl =>
      subst hend
      exact hname name id hvalue
  | @tail outer _ houter hlast ih =>
      subst hend
      cases outer with
      | list outer => exact hitem outer id ⟨name, value, hvalue, houter⟩ (ih rfl) hlast
      | _ => cases hlast

/-- Heaps with the same items where names lead are led through in the same way. -/
theorem reaches_iff_of_items_eq
    (h : ∀ id, bindings.Reaches heap id → heap'.items id = heap.items id) (id : ListId) :
    bindings.Reaches heap id ↔ bindings.Reaches heap' id := by
  have hname (any : Heap) (name : String) (id : ListId) (hvalue : bindings[name]? = some (.list id)) :
      bindings.Reaches any id := ⟨name, .list id, hvalue, .refl⟩
  constructor
  · intro hreach
    refine hreach.induct (hname heap') fun outer inner houter hback hitem => hback.item ?_
    rwa [h outer houter]
  · intro hreach
    refine hreach.induct (hname heap) fun outer inner _ hback hitem => hback.item ?_
    rwa [← h outer hback]

end Bindings

/-- A value is its own counterpart if it is no list that is not. -/
theorem Value.paired_itself {value : Value} (h : ∀ id, value = .list id → pairs id id) :
    value.Paired pairs value := by
  obtain ⟨id, rfl⟩ | hother := value.eq_list_or
  · exact .list (h id rfl)
  · exact .same hother

/-! ### Names lead into the heap -/

namespace Bindings

theorem paired_itself (bindings : Bindings) (heap : Heap) :
    bindings.Paired (bindings.itself heap) bindings := by
  intro name
  cases hvalue : bindings[name]? with
  | none => exact .none
  | some value =>
      refine .some (Value.paired_itself fun id hlist => ?_)
      subst hlist
      exact ⟨rfl, name, .list id, hvalue, .refl⟩

/-- What names lead to is its own counterpart in a heap that has only grown. -/
theorem Within.paired (h : bindings.Within heap) (hgrows : heap.GrowsTo later) :
    heap.Paired (bindings.itself heap) later where
  one_to_one := by
    rintro i j k l ⟨rfl, -⟩ ⟨rfl, -⟩
    rfl
  known := by
    rintro i j ⟨rfl, hreach⟩
    exact ⟨h i hreach, Nat.lt_of_lt_of_le (h i hreach) hgrows.size_le⟩
  items := by
    rintro i j ⟨rfl, hreach⟩
    rw [hgrows.items_eq i (h i hreach), List.forall₂_same]
    intro item hitem
    refine Value.paired_itself fun id hlist => ?_
    subst hlist
    exact ⟨rfl, hreach.item hitem⟩

/-- What has a counterpart is in the heap, and so is all that it leads to. -/
theorem within_of_paired (hbindings : bindings.Paired pairs bindings')
    (hheap : heap.Paired pairs heap') : bindings.Within heap := by
  intro id hreach
  have hpaired : ∃ other, pairs id other := by
    refine hreach.induct (motive := fun id => ∃ other, pairs id other)
      (fun name id hvalue => ?_) fun outer inner _ hback hitem => ?_
    · have hname := hbindings name
      rw [hvalue] at hname
      generalize bindings'[name]? = found at hname
      obtain ⟨⟨hpair⟩ | ⟨hother⟩⟩ := hname
      · exact ⟨_, hpair⟩
      · exact absurd rfl (hother id)
    · obtain ⟨other, hpair⟩ := hback
      obtain ⟨value, -, hvalue⟩ := exists_mem_of_forall₂ (hheap.items hpair) _ hitem
      obtain ⟨hinner⟩ | ⟨hother⟩ := hvalue
      · exact ⟨_, hinner⟩
      · exact absurd rfl (hother inner)
  obtain ⟨other, hpair⟩ := hpaired
  exact (hheap.known hpair).1

/-- A session starts with no list. -/
theorem within_seeded (sessionName : String) : (seeded sessionName).Within .empty :=
  within_of_paired (.seeded sessionName) (Heap.paired_none .empty .empty)

end Bindings

/-- Counterparts stay counterparts while both heaps grow. -/
theorem Heap.Paired.growsTo {later' : Heap} (h : heap.Paired pairs heap')
    (hgrows : heap.GrowsTo later) (hgrows' : heap'.GrowsTo later') : later.Paired pairs later' where
  one_to_one := h.one_to_one
  known hpair := ⟨Nat.lt_of_lt_of_le (h.known hpair).1 hgrows.size_le,
    Nat.lt_of_lt_of_le (h.known hpair).2 hgrows'.size_le⟩
  items hpair := by
    rw [hgrows.items_eq _ (h.known hpair).1, hgrows'.items_eq _ (h.known hpair).2]
    exact h.items hpair

/-! ### Machines -/

variable {ω : Type}

/-- Names lead to nothing that tells the machines apart. Other lists may differ. -/
structure Machine.Alike (machine other : Machine ω) : Prop where
  bindings_eq : machine.bindings = other.bindings
  output_eq : machine.output = other.output
  reaches_iff : ∀ id, machine.bindings.Reaches machine.heap id ↔ other.bindings.Reaches other.heap id
  items_eq : ∀ id, machine.bindings.Reaches machine.heap id →
    other.heap.items id = machine.heap.items id

theorem Machine.Alike.refl (machine : Machine ω) : machine.Alike machine :=
  ⟨rfl, rfl, fun _ => .rfl, fun _ _ => rfl⟩

theorem Machine.alike_of_items_eq {output : ω}
    (h : ∀ id, bindings.Reaches heap id → heap'.items id = heap.items id) :
    Machine.Alike ⟨bindings, heap, output⟩ ⟨bindings, heap', output⟩ :=
  ⟨rfl, rfl, Bindings.reaches_iff_of_items_eq h, h⟩

/-- What was there when two heaps began to grow is the same in both. -/
theorem Machine.alike_of_growsTo {output : ω} (hwithin : bindings.Within heap)
    (hgrows : heap.GrowsTo later) (hgrows' : heap.GrowsTo heap') :
    Machine.Alike ⟨bindings, later, output⟩ ⟨bindings, heap', output⟩ := by
  have hkeep (id : ListId) (hid : bindings.Reaches heap id) : later.items id = heap.items id :=
    hgrows.items_eq id (hwithin id hid)
  refine alike_of_items_eq fun id hid => ?_
  have hfirst := (Bindings.reaches_iff_of_items_eq hkeep id).2 hid
  rw [hkeep id hfirst, hgrows'.items_eq id (hwithin id hfirst)]

/-- Two runs end in the same way, on machines that names do not tell apart. -/
def Agree {α : Type} (first second : EStateM.Result RuntimeFault (Machine ω) α) : Prop :=
  outcome first = outcome second ∧ (stateAfter first).Alike (stateAfter second)

variable [Sink ω]

/-- An evaluation keeps the lists that were there. -/
theorem eval_growsTo {room : Room} {expr : Expr} {output : ω} {value : Value} {memory : Memory ω}
    (hrun : eval room bindings expr ⟨heap, output⟩ = .ok value memory) :
    heap.GrowsTo memory.heap := by
  have hgrows := eval_grows room bindings expr ⟨heap, output⟩
  rw [hrun] at hgrows
  exact hgrows.heap_growsTo

section Evaluations

open Execution

variable {room : Room} {expr expr' : Expr} {value : Value} {machine : Machine ω} {output : ω}

theorem evaluate_eq_ok :
    evaluate room expr ⟨bindings, heap, output⟩ = .ok value machine ↔
      ∃ memory, eval room bindings expr ⟨heap, output⟩ = .ok value memory ∧
        machine = ⟨bindings, memory.heap, memory.output⟩ := by
  unfold evaluate onMemory
  dsimp only
  cases eval room bindings expr ⟨heap, output⟩ <;> simp [eq_comm]

theorem outcome_evaluate : outcome (evaluate room expr machine) =
    outcome (eval room machine.bindings expr ⟨machine.heap, machine.output⟩) := by
  unfold evaluate onMemory
  dsimp only
  cases eval room machine.bindings expr ⟨machine.heap, machine.output⟩ <;> rfl

theorem stateAfter_evaluate : stateAfter (evaluate room expr machine) =
    let memory := stateAfter (eval room machine.bindings expr ⟨machine.heap, machine.output⟩)
    ⟨machine.bindings, memory.heap, memory.output⟩ := by
  unfold evaluate onMemory
  dsimp only
  cases eval room machine.bindings expr ⟨machine.heap, machine.output⟩ <;> rfl

/-- Expressions that go together to the same value agree. -/
theorem evaluate_agree (hwithin : machine.bindings.Within machine.heap)
    (h : Endings Memory.Paired (fun _ => Eq) pairs
      (eval room machine.bindings expr ⟨machine.heap, machine.output⟩)
      (eval room machine.bindings expr' ⟨machine.heap, machine.output⟩)) :
    Agree (evaluate room expr machine) (evaluate room expr' machine) := by
  have hgrows := eval_grows room machine.bindings expr ⟨machine.heap, machine.output⟩
  have hgrows' := eval_grows room machine.bindings expr' ⟨machine.heap, machine.output⟩
  obtain ⟨_, -, hmemory⟩ := h.exists_stateAfter
  refine ⟨?_, ?_⟩
  · rw [outcome_evaluate, outcome_evaluate]
    exact h.outcome_eq
  · rw [stateAfter_evaluate, stateAfter_evaluate]
    dsimp only
    rw [hmemory.output_eq]
    exact Machine.alike_of_growsTo hwithin hgrows.heap_growsTo hgrows'.heap_growsTo

end Evaluations

/-- Names lead into the heap where a run has ended. -/
def EndsWithin {α : Type} (result : EStateM.Result RuntimeFault (Machine ω) α) : Prop :=
  (stateAfter result).bindings.Within (stateAfter result).heap

variable {machine : Machine ω}

omit [Sink ω] in
/-- An execution that goes together with itself leads names nowhere out of the heap. -/
theorem endsWithin_of_together {α : Type} {related : Pairing → α → α → Prop}
    {execution : ExecutionOn ω RuntimeFault α}
    (h : ∀ pairs, Together Machine.Paired related pairs execution execution)
    (hwithin : machine.bindings.Within machine.heap) : EndsWithin (execution machine) := by
  have hself : Machine.Paired (machine.bindings.itself machine.heap) machine machine :=
    ⟨machine.bindings.paired_itself _, hwithin.paired (.refl _), rfl⟩
  obtain ⟨_, -, hpaired⟩ := (h _ machine machine hself).exists_stateAfter
  exact Bindings.within_of_paired hpaired.bindings hpaired.heap

theorem execute_endsWithin (room : Room) (statement : Statement)
    (h : machine.bindings.Within machine.heap) : EndsWithin (execute room statement machine) :=
  endsWithin_of_together (fun _ => execute_together ⟨rfl, rfl⟩ statement) h

/-- Whatever a program does, names lead into the heap afterwards. -/
theorem run_endsWithin (room : Room) (program : List Statement)
    (h : machine.bindings.Within machine.heap) : EndsWithin (run room program machine) :=
  endsWithin_of_together (fun _ => run_together ⟨rfl, rfl⟩ program) h

end Roundtable.Script
