import Roundtable.Roster
import Roundtable.Script.Value
/-!
Where values live. The heap holds the items of every list that was made, each under its place; the
room holds what the live views show. Scripts read the room and never change it.
-/

namespace Roundtable.Script

/-- The items of the lists, by the place of the list. -/
structure Heap where
  lists : Array (Array Value)

namespace Heap

def empty : Heap := ⟨#[]⟩

/-- The items of a list. Nothing is kept under a place that was not handed out. -/
def items (heap : Heap) (id : ListId) : Array Value :=
  heap.lists[id]?.getD #[]

/-- A new list with these items, and its place. -/
def allocate (heap : Heap) (items : Array Value) : Heap × ListId :=
  let id := heap.lists.size
  (⟨heap.lists.push items⟩, id)

/-- The heap with the item of a list at `position` replaced. -/
def setItem (heap : Heap) (id : ListId) (position : Nat) (value : Value) : Heap :=
  ⟨heap.lists.modify id (·.setIfInBounds position value)⟩

theorem items_eq_empty (heap : Heap) {id : ListId} (h : ¬id < heap.lists.size) :
    heap.items id = #[] := by
  unfold items
  rw [Array.getElem?_eq_none (Nat.le_of_not_lt h)]
  rfl

@[simp]
theorem items_allocate_self (heap : Heap) (items : Array Value) :
    (heap.allocate items).1.items heap.lists.size = items := by
  simp [allocate, Heap.items]

theorem items_allocate_of_lt (heap : Heap) (items : Array Value) {id : ListId}
    (h : id < heap.lists.size) : (heap.allocate items).1.items id = heap.items id := by
  simp [allocate, Heap.items, Array.getElem?_push, Nat.ne_of_lt h]

theorem items_setItem_self (heap : Heap) (id : ListId) (position : Nat) (value : Value) :
    (heap.setItem id position value).items id =
      (heap.items id).setIfInBounds position value := by
  by_cases h : id < heap.lists.size <;> simp [setItem, Heap.items, Array.getElem_modify, h]

theorem items_setItem_of_ne (heap : Heap) {id other : ListId} (position : Nat) (value : Value)
    (h : id ≠ other) : (heap.setItem id position value).items other = heap.items other := by
  simp [setItem, Heap.items, Array.getElem?_modify, h]

end Heap

/-- What the live views show: the roster and the journal of the session. -/
structure Room where
  roster : Roster
  journal : Journal

def Room.empty : Room := ⟨∅, ∅⟩

end Roundtable.Script
