import Roundtable.Number.FloatText
import Roundtable.Script.Heap
import Roundtable.Text.Quoted
/-!
The text of values. A list is printed with its items in brackets; a list that is met again while its
own items are printed is shown as `[...]` instead, so that the printing of a list that contains
itself ends: the lists of the heap that are not open become fewer with each one that is opened.
-/

namespace Roundtable.Script

/-- The number of lists in the heap that are not open. -/
def Heap.unopened (heap : Heap) (opened : List ListId) : Nat :=
  (List.range heap.lists.size).countP (· ∉ opened)

private theorem countP_lt_countP {p q : ListId → Bool} {ids : List ListId} {id : ListId}
    (weaker : ∀ other, q other → p other) (member : id ∈ ids) (holds : p id) (fails : ¬ q id) :
    ids.countP q < ids.countP p := by
  induction ids with
  | nil => simp at member
  | cons head rest ih =>
    have monotone : rest.countP q ≤ rest.countP p :=
      List.countP_mono_left fun other _ => weaker other
    rcases List.mem_cons.1 member with rfl | member
    · simp [holds, fails]; omega
    · have step : (if q head then 1 else 0) ≤ if p head then 1 else 0 := by
        by_cases held : q head
        · simp [held, weaker head held]
        · simp [held]
      rw [List.countP_cons, List.countP_cons]
      exact Nat.add_lt_add_of_lt_of_le (ih member) step

theorem Heap.unopened_lt (heap : Heap) {opened : List ListId} {id : ListId}
    (known : id < heap.lists.size) (closed : id ∉ opened) :
    heap.unopened (id :: opened) < heap.unopened opened :=
  countP_lt_countP (by simp_all) (List.mem_range.2 known) (by simpa using closed) (by simp)

/-- The texts of items in brackets. -/
def bracketed (items : List String) : String :=
  "[" ++ ", ".intercalate items ++ "]"

namespace Value

/-- The text of a value inside the items of the lists `opened`. -/
def reprWithin (room : Room) (heap : Heap) (opened : List ListId) (value : Value) : String :=
  match value with
  | .none => "None"
  | .bool true => "True"
  | .bool false => "False"
  | .int number => toString number
  | .float number => Number.FloatFormat.value.render number
  | .str text => Text.quoted text
  | .list id =>
    if id ∈ opened then "[...]"
    else if _known : id < heap.lists.size then
      bracketed ((heap.items id).toList.map fun item => reprWithin room heap (id :: opened) item)
    else bracketed []
  | .builtin f => "<built-in function " ++ f.name ++ ">"
  | .players => bracketed (room.roster.members.map Text.quoted)
  | .history => bracketed (room.journal.entries.toList.map Entry.line)
  | .entry e => e.line
termination_by heap.unopened opened
decreasing_by exact heap.unopened_lt ‹_› ‹_›

theorem reprWithin_of_mem (room : Room) (heap : Heap) {opened : List ListId} {id : ListId}
    (h : id ∈ opened) : (list id).reprWithin room heap opened = "[...]" := by
  rw [reprWithin, if_pos h]

theorem reprWithin_of_not_mem (room : Room) (heap : Heap) {opened : List ListId} {id : ListId}
    (h : id ∉ opened) : (list id).reprWithin room heap opened =
      bracketed ((heap.items id).toList.map fun item =>
        item.reprWithin room heap (id :: opened)) := by
  rw [reprWithin, if_neg h]
  split
  · rfl
  · rename_i hknown
    rw [heap.items_eq_empty hknown]
    rfl

/-- The text of a value as it stands among the items of a list. -/
def repr (room : Room) (heap : Heap) (value : Value) : String :=
  reprWithin room heap [] value

/-- The text of a value on its own: a string is not quoted. -/
def display (room : Room) (heap : Heap) : Value → String
  | .str text => text
  | value => value.repr room heap

end Value

end Roundtable.Script
