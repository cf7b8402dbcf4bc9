import Roundtable.Proofs.Script.Arithmetic
import Roundtable.Script.Container
/-!
Containers. What is told of a container in five ways has one content: its items tell its length,
whether it counts as true, what stands at an index from either end, and what is in it.
-/

namespace Roundtable.Script

/-- The values that have items. -/
def Value.IsContainer : Value → Prop
  | .str _ | .list _ | .players | .history => True
  | _ => False

/-- The operations on a container all tell of the same items. -/
structure ToldBy (room : Room) (heap : Heap) (container : Value) (items : Array Value) : Prop where
  iterate : container.iterate room heap = .ok items
  length : container.length? room heap = some items.size
  truthy : container.isTruthy room heap = true ↔ ∃ item, item ∈ items
  fromFront : ∀ {index : Value} {word : Int64}, index.CountsAs word → ∀ slot (h : slot < items.size),
    word.toInt = slot → container.itemAt room heap index = .ok items[slot]
  fromEnd : ∀ {index : Value} {word : Int64}, index.CountsAs word → ∀ slot (h : slot < items.size),
    word.toInt = slot - items.size → container.itemAt room heap index = .ok items[slot]
  outside : ∀ {index : Value} {word : Int64}, index.CountsAs word →
    word.toInt < -items.size ∨ items.size ≤ word.toInt →
    container.itemAt room heap index = .error (.index (.read container.type))
  /-- The sum that an index from the end is turned into. -/
  fits : ∀ word : Int64, word.toInt < 0 → Fits items.size → Fits (word.toInt + items.size)
  membership : container.type ≠ .str → ∀ {value : Value} {found : Bool},
    container.isIn room heap value = .ok found →
    (found = true ↔ ∃ item ∈ items, item.equals heap value = .ok true)

/-! ### The item at an index -/

section Index

variable {index : Int} {length slot : Nat}

theorem position?_fromFront (hslot : slot < length) (hindex : index = slot) :
    position? index length = some slot := by
  unfold position?
  extract_lets position
  have hposition : position = slot := (if_neg (by omega)).trans hindex
  rw [hposition, if_pos (by omega), Int.toNat_natCast]

theorem position?_fromEnd (hslot : slot < length) (hindex : index = slot - length) :
    position? index length = some slot := by
  unfold position?
  extract_lets position
  have hposition : position = slot := (if_pos (by omega)).trans (by omega)
  rw [hposition, if_pos (by omega), Int.toNat_natCast]

theorem position?_outside (hindex : index < -length ∨ length ≤ index) :
    position? index length = none := by
  unfold position?
  extract_lets position
  have hposition : position < 0 ∨ length ≤ position := by
    rcases hindex with hlow | hhigh
    · have : position = index + length := if_pos (by omega)
      omega
    · have : position = index := if_neg (by omega)
      omega
  exact if_neg (by omega)

theorem Value.CountsAs.toIndex_eq {value : Value} {word : Int64} (h : value.CountsAs word)
    (container : ValueType) : value.toIndex container = .ok word.toInt := by
  cases h with
  | int => rfl
  | bool truth => cases truth <;> rfl

end Index

section Items

variable {room : Room} {heap : Heap} {container index : Value} {items : Array Value} {word : Int64}

/-- The items that a container is iterated over are those that it counts and gives out one by one. -/
theorem items_of_iterate (h : container.iterate room heap = .ok items) :
    container.length? room heap = some items.size ∧
      (∀ slot, container.item? room heap slot = items[slot]?) ∧
      (container.isTruthy room heap = true ↔ ∃ item, item ∈ items) := by
  rw [← Array.size_pos_iff_exists_mem, Nat.pos_iff_ne_zero]
  cases container with
  | str text =>
      cases h
      refine ⟨?_, fun slot => ?_, ?_⟩
      · simp [Value.length?, ← String.length_toList]
      · simp [Value.item?]
      · simp [Value.isTruthy]
  | list id =>
      cases h
      refine ⟨rfl, fun slot => rfl, ?_⟩
      simp [Value.isTruthy]
  | players =>
      cases h
      refine ⟨?_, fun slot => ?_, ?_⟩
      · simp [Value.length?]
      · simp [Value.item?]
      · simp [Value.isTruthy]
  | history =>
      cases h
      refine ⟨?_, fun slot => ?_, ?_⟩
      · simp [Value.length?, Journal.length]
      · simp [Value.item?, Journal.get?]
      · simp [Value.isTruthy]
  | _ => cases h

theorem itemAt_of_position? (hitems : container.iterate room heap = .ok items)
    (hindex : index.CountsAs word) : container.itemAt room heap index =
      ((position? word.toInt items.size).bind (items[·]?)).elim
        (.error (.index (.read container.type))) .ok := by
  obtain ⟨hlength, hitem, -⟩ := items_of_iterate hitems
  unfold Value.itemAt
  simp only [hlength, hindex.toIndex_eq, hitem]

end Items

/-! ### What is in a container -/

section Membership

variable {room : Room} {heap : Heap} {value : Value} {found : Bool}

/-- A list holds a value if one of its items is equal to it, once the search ends without a fault. -/
theorem isAmong_eq_ok {items : List Value} (h : Value.isAmong heap value items = .ok found) :
    found = true ↔ ∃ item ∈ items, item.equals heap value = .ok true := by
  induction items with
  | nil =>
      cases h
      simp
  | cons item items ih =>
      unfold Value.isAmong at h
      cases hequal : item.equals heap value with
      | error fault =>
          rw [hequal] at h
          cases h
      | ok same =>
          rw [hequal] at h
          cases same with
          | false => simp [hequal, ih h]
          | true =>
              cases h
              simp [hequal]

theorem str_equals (text : String) (value : Value) :
    (Value.str text).equals heap value = .ok (decide (.str text = value)) := by
  cases value <;> simp [Value.equals, Value.equalsWithin, Value.numeric?]

theorem entry_equals (entry : Entry) (value : Value) :
    (Value.entry entry).equals heap value = .ok (decide (.entry entry = value)) := by
  cases value <;> simp [Value.equals, Value.equalsWithin, Value.numeric?]

/-- Membership in a container that is no string is told by the items that are equal to the value. -/
theorem isIn_eq_ok {container : Value} {items : Array Value}
    (hitems : container.iterate room heap = .ok items) (hstr : container.type ≠ .str)
    (h : container.isIn room heap value = .ok found) :
    found = true ↔ ∃ item ∈ items, item.equals heap value = .ok true := by
  cases container with
  | str text => exact absurd rfl hstr
  | list id =>
      cases hitems
      simpa using isAmong_eq_ok h
  | players =>
      cases hitems
      have hfound : found = true ↔ ∃ name ∈ room.roster.members, .str name = value := by
        cases value with
        | str name =>
            cases h
            simp [Roster.isMember]
        | _ =>
            cases h
            simp
      simp [hfound, str_equals]
  | history =>
      cases hitems
      have hfound : found = true ↔ ∃ entry ∈ room.journal.entries, .entry entry = value := by
        cases value with
        | entry entry =>
            cases h
            simp
        | _ =>
            cases h
            simp
      simp [hfound, entry_equals]
  | _ => cases hitems

end Membership

/-- The items of a container are what it is iterated over, counted by, read at and searched for, from
either end; a value of another kind is a type fault for all of these and has no length. -/
theorem container_operations_agree (room : Room) (heap : Heap) (value : Value) :
    (value.IsContainer → ∃ items, ToldBy room heap value items) ∧
      (¬value.IsContainer → value.length? room heap = none ∧
        value.iterate room heap = .error (.type (.notIterable value.type)) ∧
        (∀ index, value.itemAt room heap index = .error (.type (.notSubscriptable value.type))) ∧
        ∀ item, value.isIn room heap item = .error (.type (.notContainer value.type))) := by
  constructor
  · intro hcontainer
    obtain ⟨items, hitems⟩ : ∃ items, value.iterate room heap = .ok items := by
      cases value with
      | str | list | players | history => exact ⟨_, rfl⟩
      | _ => cases hcontainer
    obtain ⟨hlength, -, htruthy⟩ := items_of_iterate hitems
    refine ⟨items, hitems, hlength, htruthy, ?_, ?_, ?_, ?_,
      fun hstr => isIn_eq_ok hitems hstr⟩
    · intro index word hindex slot hslot hword
      rw [itemAt_of_position? hitems hindex, position?_fromFront hslot hword]
      simp [hslot]
    · intro index word hindex slot hslot hword
      rw [itemAt_of_position? hitems hindex, position?_fromEnd hslot hword]
      simp [hslot]
    · intro index word hindex hword
      rw [itemAt_of_position? hitems hindex, position?_outside hword]
      rfl
    · intro word hneg hfits
      have := word.le_toInt
      unfold Fits at hfits ⊢
      omega
  · intro hother
    cases value with
    | str | list | players | history => exact absurd trivial hother
    | _ => exact ⟨rfl, rfl, fun _ => rfl, fun _ => rfl⟩

end Roundtable.Script
