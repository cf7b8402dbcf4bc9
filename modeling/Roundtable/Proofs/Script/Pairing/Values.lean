import Roundtable.Proofs.Itemwise
import Roundtable.Proofs.TwoRuns
import Roundtable.Script.Container
import Roundtable.Script.Value.Printer
/-!
Values in two heaps at once. A list is known by its place, and scripts can see that two lists are
one but never the place itself. So where the lists of two heaps are counterparts, one to one and
with counterparts as their items, everything that is read off a value is the same on both sides: its
equality and order with others, its text, its length, and its items up to counterparts.
-/

namespace Roundtable.Script

/-- What scripts see is the same in both rooms; whose turn it is and the counts may differ. -/
structure Room.Alike (room other : Room) : Prop where
  members_eq : room.roster.members = other.roster.members
  journal_eq : room.journal = other.journal

/-- Which list of one heap is the counterpart of which list of another. -/
abbrev Pairing := ListId → ListId → Prop

/-- The values are counterparts: two lists that are, or one and the same value that is no list. -/
inductive Value.Paired (pairs : Pairing) : Value → Value → Prop where
  | list {i j : ListId} : pairs i j → Paired pairs (.list i) (.list j)
  | same {value : Value} : (∀ id, value ≠ .list id) → Paired pairs value value

/-- Counterparts are one to one, they are all there, and their items are counterparts. -/
structure Heap.Paired (pairs : Pairing) (heap other : Heap) : Prop where
  one_to_one : ∀ {i j k l}, pairs i j → pairs k l → (i = k ↔ j = l)
  known : ∀ {i j}, pairs i j → i < heap.lists.size ∧ j < other.lists.size
  items : ∀ {i j}, pairs i j →
    List.Forall₂ (Value.Paired pairs) (heap.items i).toList (other.items j).toList

namespace Value

variable {pairs later : Pairing} {room room' : Room} {heap heap' : Heap} {a a' b b' : Value}
  {items items' : List Value}

theorem eq_list_or (value : Value) : (∃ id, value = .list id) ∨ ∀ id, value ≠ .list id :=
  (Classical.em _).imp_right not_exists.1

theorem Paired.mono (hle : pairs ≤ later) (h : a.Paired pairs a') : a.Paired later a' := by
  cases h with
  | list hpair => exact .list (hle _ _ hpair)
  | same hvalue => exact .same hvalue

theorem forall₂_paired_mono (hle : pairs ≤ later) (h : List.Forall₂ (Paired pairs) items items') :
    List.Forall₂ (Paired later) items items' :=
  h.imp fun _ _ => Paired.mono hle

theorem forall₂_paired_same (h : ∀ item ∈ items, ∀ id, item ≠ .list id) :
    List.Forall₂ (Paired pairs) items items :=
  List.forall₂_same.2 fun item hitem => .same (h item hitem)

/-- What does not look at the place of a list is the same for counterparts. -/
theorem Paired.congr {α : Type} (h : a.Paired pairs a') (f : Value → α)
    (hf : ∀ i j, f (.list i) = f (.list j)) : f a = f a' := by
  cases h with
  | list => exact hf _ _
  | same => rfl

theorem Paired.type_eq (h : a.Paired pairs a') : a.type = a'.type :=
  h.congr type fun _ _ => rfl

theorem Paired.numeric?_eq (h : a.Paired pairs a') : a.numeric? = a'.numeric? :=
  h.congr numeric? fun _ _ => rfl

theorem Paired.eq_none_iff (h : a.Paired pairs a') : a = .none ↔ a' = .none := by
  cases h with
  | list => simp
  | same => rfl

theorem attributeOf_of_paired (name : String) (ha : a.Paired pairs a') :
    Outcomes (Paired pairs) (a.attributeOf name) (a'.attributeOf name) := by
  rw [ha.congr (attributeOf · name) fun _ _ => rfl]
  refine .refl fun value hvalue => .same fun id => ?_
  unfold attributeOf at hvalue
  split at hvalue
  · split at hvalue
    · cases hvalue
      exact nofun
    · split at hvalue
      · cases hvalue
        exact nofun
      · split at hvalue
        · cases hvalue
          exact nofun
        · cases hvalue
  · cases hvalue

/-! ### Equality and order -/

section Comparing

theorem itemsEqual_eq_of_paired {equal equal' : Value → Value → Except RuntimeFault Bool}
    {left left' right right' : List Value} (hleft : List.Forall₂ (Paired pairs) left left')
    (hright : List.Forall₂ (Paired pairs) right right')
    (hequal : ∀ a a' b b', a.Paired pairs a' → b.Paired pairs b' → equal a b = equal' a' b') :
    itemsEqual equal left right = itemsEqual equal' left' right' := by
  induction hleft generalizing right right' with
  | nil => rfl
  | cons ha _ ih =>
      cases hright with
      | nil => rfl
      | cons hb hright =>
          unfold itemsEqual
          rw [hequal _ _ _ _ ha hb, ih hright]

theorem itemsOrder_eq_of_paired {equal equal' : Value → Value → Except RuntimeFault Bool}
    {order order' : Value → Value → Except RuntimeFault (Option Ordering)}
    {left left' right right' : List Value} (hleft : List.Forall₂ (Paired pairs) left left')
    (hright : List.Forall₂ (Paired pairs) right right')
    (hequal : ∀ a a' b b', a.Paired pairs a' → b.Paired pairs b' → equal a b = equal' a' b')
    (horder : ∀ a a' b b', a.Paired pairs a' → b.Paired pairs b' → order a b = order' a' b') :
    itemsOrder equal order left right = itemsOrder equal' order' left' right' := by
  induction hleft generalizing right right' with
  | nil =>
      cases hright with
      | nil => rfl
      | cons _ hright => simp [itemsOrder, hright.length_eq]
  | cons ha hleft ih =>
      cases hright with
      | nil => simp [itemsOrder, hleft.length_eq]
      | cons hb hright =>
          unfold itemsOrder
          rw [hequal _ _ _ _ ha hb, ih hright, horder _ _ _ _ ha hb]

/-- Values that are not both lists compare in the same way in every heap. -/
theorem equalsWithin_heap {levels : Nat} (h : ∀ i j, ¬(a = .list i ∧ b = .list j)) :
    equalsWithin heap levels a b = equalsWithin heap' levels a b := by
  unfold equalsWithin
  split
  · rfl
  · split <;> first | rfl | exact absurd ⟨rfl, rfl⟩ (h _ _)

theorem orderWithin_heap {sign : String} {levels : Nat} (h : ∀ i j, ¬(a = .list i ∧ b = .list j)) :
    orderWithin heap sign levels a b = orderWithin heap' sign levels a b := by
  unfold orderWithin
  split
  · rfl
  · split <;> first | rfl | exact absurd ⟨rfl, rfl⟩ (h _ _)

/-- A list and a value of another kind are not equal. -/
theorem equalsWithin_list_left {levels : Nat} (i : ListId) (h : ∀ id, b ≠ .list id) :
    equalsWithin heap levels (.list i) b = .ok false := by
  unfold equalsWithin
  cases b with
  | list id => exact absurd rfl (h id)
  | _ => rfl

theorem equalsWithin_list_right {levels : Nat} (i : ListId) (h : ∀ id, a ≠ .list id) :
    equalsWithin heap levels a (.list i) = .ok false := by
  unfold equalsWithin
  cases a with
  | list id => exact absurd rfl (h id)
  | _ => rfl

theorem orderWithin_list_left {sign : String} {levels : Nat} (i : ListId)
    (h : ∀ id, b ≠ .list id) : orderWithin heap sign levels (.list i) b =
      .error (.type (.notOrdered sign .list b.type)) := by
  unfold orderWithin
  cases b with
  | list id => exact absurd rfl (h id)
  | _ => rfl

theorem orderWithin_list_right {sign : String} {levels : Nat} (i : ListId)
    (h : ∀ id, a ≠ .list id) : orderWithin heap sign levels a (.list i) =
      .error (.type (.notOrdered sign a.type .list)) := by
  unfold orderWithin
  cases a with
  | list id => exact absurd rfl (h id)
  | _ => rfl

end Comparing

/-- The text of a value that is no list does not depend on the heap. -/
theorem reprWithin_eq_of_ne_list {opened opened' : List ListId} (hroom : room.Alike room')
    (h : ∀ id, a ≠ .list id) :
    a.reprWithin room heap opened = a.reprWithin room' heap' opened' := by
  cases a with
  | list id => exact absurd rfl (h id)
  | bool value => cases value <;> rw [reprWithin, reprWithin]
  | players => rw [reprWithin, reprWithin, hroom.members_eq]
  | history => rw [reprWithin, reprWithin, hroom.journal_eq]
  | _ => rw [reprWithin, reprWithin]

section Reading

variable (hheap : heap.Paired pairs heap')

include hheap

theorem size_items_eq {i j : ListId} (hpair : pairs i j) :
    (heap.items i).size = (heap'.items j).size :=
  (hheap.items hpair).length_eq

/-- A list is open on one side if and only if its counterpart is open on the other. -/
theorem mem_iff_of_paired {opened opened' : List ListId} {i j : ListId}
    (hopened : List.Forall₂ pairs opened opened') (hij : pairs i j) : i ∈ opened ↔ j ∈ opened' := by
  induction hopened with
  | nil => simp
  | cons hpair _ ih => rw [List.mem_cons, List.mem_cons, ih, hheap.one_to_one hij hpair]

theorem equalsWithin_eq_of_paired (levels : Nat) (ha : a.Paired pairs a')
    (hb : b.Paired pairs b') : equalsWithin heap levels a b = equalsWithin heap' levels a' b' := by
  induction levels using Nat.strongRecOn generalizing a a' b b' with
  | ind levels ih =>
    cases ha with
    | @list i j hij =>
        cases hb with
        | @list k l hkl =>
            unfold equalsWithin
            simp only [numeric?, hheap.one_to_one hij hkl, size_items_eq hheap hij,
              size_items_eq hheap hkl]
            split
            · rfl
            · cases levels with
              | zero => rfl
              | succ levels =>
                  dsimp only
                  split
                  · exact itemsEqual_eq_of_paired (hheap.items hij) (hheap.items hkl)
                      fun _ _ _ _ ha hb => ih levels (Nat.lt_succ_self levels) ha hb
                  · rfl
        | same hvalue => rw [equalsWithin_list_left i hvalue, equalsWithin_list_left j hvalue]
    | same hvalue =>
        cases hb with
        | @list i j hij => rw [equalsWithin_list_right i hvalue, equalsWithin_list_right j hvalue]
        | same hother => exact equalsWithin_heap fun i j h => hvalue i h.1

theorem orderWithin_eq_of_paired (sign : String) (levels : Nat) (ha : a.Paired pairs a')
    (hb : b.Paired pairs b') :
    orderWithin heap sign levels a b = orderWithin heap' sign levels a' b' := by
  induction levels using Nat.strongRecOn generalizing a a' b b' with
  | ind levels ih =>
    cases ha with
    | @list i j hij =>
        cases hb with
        | @list k l hkl =>
            unfold orderWithin
            cases levels with
            | zero => rfl
            | succ levels =>
                exact itemsOrder_eq_of_paired (hheap.items hij) (hheap.items hkl)
                  (fun _ _ _ _ ha hb => equalsWithin_eq_of_paired hheap levels ha hb)
                  fun _ _ _ _ ha hb => ih levels (Nat.lt_succ_self levels) ha hb
        | same hvalue => rw [orderWithin_list_left i hvalue, orderWithin_list_left j hvalue]
    | same hvalue =>
        cases hb with
        | @list i j hij => rw [orderWithin_list_right i hvalue, orderWithin_list_right j hvalue]
        | same hother => exact orderWithin_heap fun i j h => hvalue i h.1

theorem equals_eq_of_paired (ha : a.Paired pairs a') (hb : b.Paired pairs b') :
    a.equals heap b = a'.equals heap' b' :=
  equalsWithin_eq_of_paired hheap maxCompareDepth ha hb

theorem order_eq_of_paired (sign : String) (ha : a.Paired pairs a') (hb : b.Paired pairs b') :
    a.order heap sign b = a'.order heap' sign b' :=
  orderWithin_eq_of_paired hheap sign maxCompareDepth ha hb

/-! ### Containers -/

theorem isAmong_eq_of_paired (ha : a.Paired pairs a')
    (hitems : List.Forall₂ (Paired pairs) items items') :
    isAmong heap a items = isAmong heap' a' items' := by
  induction hitems with
  | nil => rfl
  | cons hitem _ ih =>
      unfold isAmong
      rw [equals_eq_of_paired hheap hitem ha, ih]

theorem assignmentPlace_of_paired (ha : a.Paired pairs a') (hb : b.Paired pairs b') :
    Outcomes (fun place place' => pairs place.1 place'.1 ∧ place.2 = place'.2)
      (a.assignmentPlace heap b) (a'.assignmentPlace heap' b') := by
  cases ha with
  | @list i j hij =>
      unfold assignmentPlace
      dsimp only
      rw [hb.congr (toIndex .list) fun _ _ => rfl, size_items_eq hheap hij]
      cases b'.toIndex .list with
      | error fault => exact .error fault
      | ok index =>
          dsimp only
          cases position? index (heap'.items j).size with
          | none => exact .error _
          | some position => exact .ok ⟨hij, rfl⟩
  | same hvalue =>
      cases a with
      | list id => exact absurd rfl (hvalue id)
      | _ => exact .error _

variable (hroom : room.Alike room')

include hroom

theorem length?_eq_of_paired (ha : a.Paired pairs a') :
    a.length? room heap = a'.length? room' heap' := by
  cases ha with
  | list hij => exact congrArg some (size_items_eq hheap hij)
  | same hvalue =>
      cases a with
      | list id => exact absurd rfl (hvalue id)
      | players => exact congrArg (fun members => some (List.length members)) hroom.members_eq
      | history => exact congrArg (fun journal => some (Journal.length journal)) hroom.journal_eq
      | _ => rfl

theorem isTruthy_eq_of_paired (ha : a.Paired pairs a') :
    a.isTruthy room heap = a'.isTruthy room' heap' := by
  cases ha with
  | list hij => exact congrArg (fun size => !decide (size = 0)) (size_items_eq hheap hij)
  | same hvalue =>
      cases a with
      | list id => exact absurd rfl (hvalue id)
      | players => exact congrArg (fun members => !List.isEmpty members) hroom.members_eq
      | history => exact congrArg (fun journal => !journal.entries.isEmpty) hroom.journal_eq
      | _ => rfl

theorem iterate_of_paired (ha : a.Paired pairs a') :
    Outcomes (fun items items' => List.Forall₂ (Paired pairs) items.toList items'.toList)
      (a.iterate room heap) (a'.iterate room' heap') := by
  cases ha with
  | list hij => exact .ok (hheap.items hij)
  | same hvalue =>
      cases a with
      | list id => exact absurd rfl (hvalue id)
      | str text => exact .ok (forall₂_paired_same (by simp [ofChar]))
      | players =>
          unfold iterate
          rw [hroom.members_eq]
          exact .ok (forall₂_paired_same (by simp))
      | history =>
          unfold iterate
          rw [hroom.journal_eq]
          exact .ok (forall₂_paired_same (by simp))
      | _ => exact .error _

theorem item?_of_paired (position : Nat) (ha : a.Paired pairs a') :
    Option.Rel (Paired pairs) (a.item? room heap position) (a'.item? room' heap' position) := by
  have hsame {α : Type} (found : Option α) {f : α → Value} (hf : ∀ x id, f x ≠ .list id) :
      Option.Rel (Paired pairs) (found.map f) (found.map f) := by
    cases found with
    | none => exact .none
    | some x => exact .some (.same (hf x))
  cases ha with
  | @list i j hij =>
      have hitem := getElem?_of_forall₂ (hheap.items hij) position
      rwa [Array.getElem?_toList, Array.getElem?_toList] at hitem
  | same hvalue =>
      cases a with
      | list id => exact absurd rfl (hvalue id)
      | str text => exact hsame _ (by simp [ofChar])
      | players =>
          unfold item?
          rw [hroom.members_eq]
          exact hsame _ (by simp)
      | history =>
          unfold item?
          rw [hroom.journal_eq]
          exact hsame _ (by simp)
      | _ => exact .none

theorem itemAt_of_paired (ha : a.Paired pairs a') (hb : b.Paired pairs b') :
    Outcomes (Paired pairs) (a.itemAt room heap b) (a'.itemAt room' heap' b') := by
  unfold itemAt
  rw [length?_eq_of_paired hheap hroom ha, ha.type_eq, hb.congr (toIndex a'.type) fun _ _ => rfl]
  cases a'.length? room' heap' with
  | none => exact .error _
  | some length =>
      dsimp only
      cases b'.toIndex a'.type with
      | error fault => exact .error fault
      | ok index =>
          dsimp only
          cases position? index length with
          | none => exact .error _
          | some position =>
              exact .of_option (item?_of_paired hheap hroom position ha) _

theorem isIn_eq_of_paired (ha : a.Paired pairs a') (hb : b.Paired pairs b') :
    a.isIn room heap b = a'.isIn room' heap' b' := by
  cases ha with
  | list hij => exact isAmong_eq_of_paired hheap hb (hheap.items hij)
  | same hvalue =>
      have hmember (name : String) : room.roster.isMember name = room'.roster.isMember name := by
        unfold Roster.isMember
        rw [hroom.members_eq]
      cases hb with
      | list hij =>
          cases a with
          | list id => exact absurd rfl (hvalue id)
          | _ => rfl
      | same hother =>
          cases a with
          | list id => exact absurd rfl (hvalue id)
          | _ => cases b <;> first | rfl | simp [isIn, hmember, hroom.journal_eq]

theorem compares_eq_of_paired (op : CompareOp) (ha : a.Paired pairs a') (hb : b.Paired pairs b') :
    a.compares room heap op b = a'.compares room' heap' op b' := by
  unfold compares
  rw [equals_eq_of_paired hheap ha hb, order_eq_of_paired hheap op.text ha hb,
    isIn_eq_of_paired hheap hroom hb ha]

/-! ### Texts -/

theorem reprWithin_eq_of_paired {opened opened' : List ListId} {a a' : Value}
    (hopened : List.Forall₂ pairs opened opened') (ha : a.Paired pairs a') :
    a.reprWithin room heap opened = a'.reprWithin room' heap' opened' := by
  cases ha with
  | same hvalue => exact reprWithin_eq_of_ne_list hroom hvalue
  | @list i j hij =>
      by_cases hmem : i ∈ opened
      · have hmem' := (mem_iff_of_paired hheap hopened hij).1 hmem
        rw [reprWithin_of_mem room heap hmem, reprWithin_of_mem room' heap' hmem']
      · have hmem' := mt (mem_iff_of_paired hheap hopened hij).2 hmem
        have hknown := (hheap.known hij).1
        rw [reprWithin_of_not_mem room heap hmem, reprWithin_of_not_mem room' heap' hmem']
        -- The list is known, so with it open there is one list less to open.
        refine congrArg bracketed (map_eq_map_of_forall₂ (hheap.items hij) fun _ _ hitem => ?_)
        exact reprWithin_eq_of_paired (.cons hij hopened) hitem
termination_by heap.unopened opened
decreasing_by exact heap.unopened_lt hknown hmem

theorem repr_eq_of_paired (ha : a.Paired pairs a') : a.repr room heap = a'.repr room' heap' :=
  reprWithin_eq_of_paired hheap hroom .nil ha

theorem display_eq_of_paired (ha : a.Paired pairs a') :
    a.display room heap = a'.display room' heap' := by
  cases ha with
  | list hij => exact repr_eq_of_paired hheap hroom (.list hij)
  | same hvalue =>
      cases a with
      | str text => rfl
      | _ => exact repr_eq_of_paired hheap hroom (.same hvalue)

end Reading

end Value

end Roundtable.Script
