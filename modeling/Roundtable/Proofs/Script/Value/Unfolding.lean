import Mathlib.Data.List.Forall2
import Roundtable.Script.Value.Order
/-!
Values as trees. Following the items of lists from a value on gives a tree, which is infinite if a
list contains itself. Equality decides whether two values have the same tree: where it follows lists
it has an answer for the items, where it takes a short cut the trees are the same, and it gives up
only where both trees go deeper than it follows.
-/

namespace Roundtable.Script

/-- What a value shows of itself. A truth value shows the number that it counts as; a list shows
nothing of its items, which are nodes of their own. -/
inductive Node where
  | none
  | number (value : Numeric)
  | str (text : String)
  | list
  | builtin (function : Builtin)
  | players
  | history
  | entry (entry : Entry)
  deriving DecidableEq

namespace Value

def node : Value → Node
  | .none => .none
  | .bool value => .number (.int (if value then 1 else 0))
  | .int value => .number (.int value)
  | .float value => .number (.float value)
  | .str text => .str text
  | .list _ => .list
  | .builtin function => .builtin function
  | .players => .players
  | .history => .history
  | .entry made => .entry made

/-- The item at a position of a list. -/
def child? (heap : Heap) (position : Nat) : Value → Option Value
  | .list id => (heap.items id)[position]?
  | _ => Option.none

/-- The node at the end of a path through the items of lists, if the tree of the value has that
path. -/
def nodeAt? (heap : Heap) : Value → List Nat → Option Node
  | value, [] => some value.node
  | value, position :: path => (value.child? heap position).bind fun item => item.nodeAt? heap path

/-- The two values unfold to the same tree. -/
def SameTree (heap : Heap) (a b : Value) : Prop :=
  ∀ path, a.nodeAt? heap path = b.nodeAt? heap path

/-- No float is met on any path. -/
def FloatFree (heap : Heap) (value : Value) : Prop :=
  ∀ path x, value.nodeAt? heap path ≠ some (.number (.float x))

/-- Some path leads through more than this many lists, one inside the other. -/
def NestsBeyond (heap : Heap) (levels : Nat) (value : Value) : Prop :=
  ∃ path : List Nat, path.length = levels ∧ value.nodeAt? heap path = some .list

section Trees

variable {heap : Heap} {a b : Value} {i j : ListId}

theorem node_eq_list : a.node = .list ↔ ∃ id, a = .list id := by
  cases a <;> simp [node]

theorem nodeAt?_cons_of_node_ne (h : a.node ≠ .list) (position : Nat) (path : List Nat) :
    a.nodeAt? heap (position :: path) = Option.none := by
  cases a with
  | list id => exact absurd rfl h
  | _ => rfl

theorem FloatFree.ne_float (h : a.FloatFree heap) (x : Float) : a ≠ .float x := by
  rintro rfl
  exact h [] x rfl

theorem FloatFree.item (h : (Value.list i).FloatFree heap) :
    ∀ item ∈ (heap.items i).toList, item.FloatFree heap := by
  intro item hitem path x hpath
  obtain ⟨position, hposition⟩ := List.getElem?_of_mem hitem
  refine h (position :: path) x ?_
  rw [Array.getElem?_toList] at hposition
  show ((heap.items i)[position]?).bind _ = _
  rw [hposition]
  exact hpath

/-- In a heap without floats only a float itself is not free of them. -/
theorem floatFree_of_heap (hheap : ∀ items ∈ heap.lists, ∀ item ∈ items, ∀ x, item ≠ .float x)
    (ha : ∀ x, a ≠ .float x) : a.FloatFree heap := by
  intro path
  induction path generalizing a with
  | nil =>
      intro x hx
      cases a <;> simp_all [nodeAt?, node]
  | cons position path ih =>
      intro x hx
      obtain ⟨item, hitem, hpath⟩ := Option.bind_eq_some_iff.1 hx
      refine ih ?_ x hpath
      cases a with
      | list id =>
          have hmem : item ∈ heap.lists[id]?.getD #[] := Array.mem_of_getElem? hitem
          cases hlist : heap.lists[id]? with
          | none => simp [hlist] at hmem
          | some items =>
              rw [hlist] at hmem
              exact hheap items (Array.mem_of_getElem? hlist) item hmem
      | _ => cases hitem

theorem NestsBeyond.list {levels : Nat} {item : Value} (hitem : item ∈ (heap.items i).toList)
    (h : item.NestsBeyond heap levels) : (Value.list i).NestsBeyond heap (levels + 1) := by
  obtain ⟨path, hlength, hpath⟩ := h
  obtain ⟨position, hposition⟩ := List.getElem?_of_mem hitem
  rw [Array.getElem?_toList] at hposition
  refine ⟨position :: path, by rw [List.length_cons, hlength], ?_⟩
  show ((heap.items i)[position]?).bind _ = _
  rw [hposition]
  exact hpath

/-- Values that are not both lists have the same tree if they show the same. -/
theorem sameTree_iff_node_eq (h : ¬(a.node = .list ∧ b.node = .list)) :
    SameTree heap a b ↔ a.node = b.node := by
  constructor
  · intro htree
    exact Option.some.inj (htree [])
  · intro hnode path
    have ha : a.node ≠ .list := fun hlist => h ⟨hlist, hnode ▸ hlist⟩
    have hb : b.node ≠ .list := hnode ▸ ha
    cases path with
    | nil => exact congrArg some hnode
    | cons position path => rw [nodeAt?_cons_of_node_ne ha, nodeAt?_cons_of_node_ne hb]

/-- Items found at the same positions have the same trees, and neither list goes on alone. -/
theorem forall₂_sameTree_iff {left right : List Value} :
    List.Forall₂ (SameTree heap) left right ↔ ∀ (position : Nat) path,
      (left[position]?.bind fun item => item.nodeAt? heap path) =
        right[position]?.bind fun item => item.nodeAt? heap path := by
  induction left generalizing right with
  | nil =>
      cases right with
      | nil => simp
      | cons b right =>
          refine ⟨(nomatch ·), fun h => ?_⟩
          cases h 0 []
  | cons a left ih =>
      cases right with
      | nil =>
          refine ⟨(nomatch ·), fun h => ?_⟩
          cases h 0 []
      | cons b right =>
          rw [List.forall₂_cons, ih]
          constructor
          · rintro ⟨hhead, htail⟩ (_ | position) path
            · exact hhead path
            · exact htail position path
          · intro h
            exact ⟨fun path => h 0 path, fun position path => h (position + 1) path⟩

/-- Lists have the same tree if their items have, one by one. -/
theorem sameTree_list : SameTree heap (.list i) (.list j) ↔
    List.Forall₂ (SameTree heap) (heap.items i).toList (heap.items j).toList := by
  rw [forall₂_sameTree_iff]
  simp only [Array.getElem?_toList]
  constructor
  · exact fun h position path => h (position :: path)
  · rintro h (_ | ⟨position, path⟩)
    · rfl
    · exact h position path

end Trees

section Equality

variable {heap : Heap} {levels : Nat} {a b : Value} {i j : ListId}

theorem equalsWithin_self_list (levels : Nat) (i : ListId) :
    equalsWithin heap levels (.list i) (.list i) = .ok true := by
  unfold equalsWithin
  exact if_pos rfl

theorem equalsWithin_zero_lists (h : i ≠ j) :
    equalsWithin heap 0 (.list i) (.list j) = .error .recursionLimit := by
  unfold equalsWithin
  exact if_neg h

theorem equalsWithin_succ_lists (h : i ≠ j) :
    equalsWithin heap (levels + 1) (.list i) (.list j) =
      if (heap.items i).size = (heap.items j).size then
        itemsEqual (equalsWithin heap levels) (heap.items i).toList (heap.items j).toList
      else .ok false := by
  unfold equalsWithin
  exact if_neg h

/-- Values that are not both lists are equal if they show the same. -/
theorem equalsWithin_of_not_lists (ha : a.FloatFree heap) (hb : b.FloatFree heap)
    (h : ¬(a.node = .list ∧ b.node = .list)) :
    equalsWithin heap levels a b = .ok (a.node = b.node) := by
  have ha := ha.ne_float
  have hb := hb.ne_float
  cases a <;> cases b <;> unfold equalsWithin <;> simp_all [numeric?, node, Numeric.equals]

theorem itemsEqual_eq_error {equal : Value → Value → Except RuntimeFault Bool}
    {left right : List Value} {fault : RuntimeFault}
    (h : itemsEqual equal left right = .error fault) :
    ∃ a ∈ left, ∃ b ∈ right, equal a b = .error fault := by
  induction left generalizing right with
  | nil => cases h
  | cons a left ih =>
      cases right with
      | nil => cases h
      | cons b right =>
          unfold itemsEqual at h
          split at h
          · obtain ⟨c, hc, d, hd, hfault⟩ := ih h
            exact ⟨c, .tail a hc, d, .tail b hd, hfault⟩
          · exact ⟨a, .head left, b, .head right, h⟩

/-- An answer on the items is an answer on the lists. -/
theorem itemsEqual_eq_ok {equal : Value → Value → Except RuntimeFault Bool}
    {Same : Value → Value → Prop} {left right : List Value} {result : Bool}
    (hequal : ∀ a ∈ left, ∀ b ∈ right, ∀ answer, equal a b = .ok answer → (answer ↔ Same a b))
    (hlength : left.length = right.length) (h : itemsEqual equal left right = .ok result) :
    result ↔ List.Forall₂ Same left right := by
  induction left generalizing right with
  | nil =>
      cases List.length_eq_zero_iff.1 hlength.symm
      cases h
      simp
  | cons a left ih =>
      cases right with
      | nil => cases hlength
      | cons b right =>
          have hhead := hequal a (.head left) b (.head right)
          rw [List.forall₂_cons]
          unfold itemsEqual at h
          split at h
          · rename_i htrue
            rw [ih (fun c hc d hd => hequal c (.tail a hc) d (.tail b hd))
              (Nat.succ.inj hlength) h, iff_and_self]
            exact fun _ => (hhead true htrue).1 rfl
          · rename_i hresult
            have hanswer := hhead result h
            cases result with
            | true => exact absurd h hresult
            | false =>
                have hdiffer : ¬Same a b := fun hsame => Bool.false_ne_true (hanswer.2 hsame)
                simp [hdiffer]

/-- An answer is the right one: the values are equal if and only if their trees are the same. -/
theorem equalsWithin_eq_ok {result : Bool} (ha : a.FloatFree heap) (hb : b.FloatFree heap)
    (h : equalsWithin heap levels a b = .ok result) : result ↔ SameTree heap a b := by
  induction levels using Nat.strongRecOn generalizing a b result with
  | ind levels ih =>
      by_cases hlists : a.node = .list ∧ b.node = .list
      · obtain ⟨⟨i, rfl⟩, ⟨j, rfl⟩⟩ := hlists.imp node_eq_list.1 node_eq_list.1
        by_cases hsame : i = j
        · subst hsame
          rw [equalsWithin_self_list] at h
          cases h
          simp [SameTree]
        · cases levels with
          | zero =>
              rw [equalsWithin_zero_lists hsame] at h
              cases h
          | succ levels =>
              rw [equalsWithin_succ_lists hsame] at h
              rw [sameTree_list]
              split at h
              · rename_i hsize
                exact itemsEqual_eq_ok (fun c hc d hd answer =>
                  ih levels (Nat.lt_succ_self levels) (ha.item c hc) (hb.item d hd)) hsize h
              · rename_i hsize
                cases h
                simpa using mt List.Forall₂.length_eq hsize
      · rw [equalsWithin_of_not_lists ha hb hlists] at h
        cases h
        rw [sameTree_iff_node_eq hlists, decide_eq_true_iff]

/-- There is no answer only where both values nest lists deeper than the comparison follows. -/
theorem equalsWithin_eq_error {fault : RuntimeFault} (ha : a.FloatFree heap)
    (hb : b.FloatFree heap) (h : equalsWithin heap levels a b = .error fault) :
    fault = .recursionLimit ∧ a.NestsBeyond heap levels ∧ b.NestsBeyond heap levels := by
  induction levels using Nat.strongRecOn generalizing a b with
  | ind levels ih =>
      by_cases hlists : a.node = .list ∧ b.node = .list
      · obtain ⟨⟨i, rfl⟩, ⟨j, rfl⟩⟩ := hlists.imp node_eq_list.1 node_eq_list.1
        by_cases hsame : i = j
        · subst hsame
          rw [equalsWithin_self_list] at h
          cases h
        · cases levels with
          | zero =>
              rw [equalsWithin_zero_lists hsame] at h
              cases h
              exact ⟨rfl, ⟨[], rfl, rfl⟩, ⟨[], rfl, rfl⟩⟩
          | succ levels =>
              rw [equalsWithin_succ_lists hsame] at h
              split at h
              · obtain ⟨c, hc, d, hd, hfault⟩ := itemsEqual_eq_error h
                obtain ⟨hlimit, hleft, hright⟩ :=
                  ih levels (Nat.lt_succ_self levels) (ha.item c hc) (hb.item d hd) hfault
                exact ⟨hlimit, hleft.list hc, hright.list hd⟩
              · cases h
      · rw [equalsWithin_of_not_lists ha hb hlists] at h
        cases h

/-- Equality is sound for the trees of values without floats, and it has an answer unless both nest
more than two hundred lists. -/
theorem equals_sameTree (ha : a.FloatFree heap) (hb : b.FloatFree heap) :
    (a.equals heap b = .ok true → ∀ path, a.nodeAt? heap path = b.nodeAt? heap path) ∧
    (a.equals heap b = .ok false → ∃ path, a.nodeAt? heap path ≠ b.nodeAt? heap path) ∧
    (∀ fault, a.equals heap b = .error fault →
      fault = .recursionLimit ∧ a.NestsBeyond heap 200 ∧ b.NestsBeyond heap 200) ∧
    (¬(a.NestsBeyond heap 200 ∧ b.NestsBeyond heap 200) →
      ∃ result, a.equals heap b = .ok result ∧ (result = true ↔ SameTree heap a b)) := by
  refine ⟨fun h => (equalsWithin_eq_ok ha hb h).1 rfl, ?_, ?_, ?_⟩
  · intro h
    exact not_forall.1 (mt (equalsWithin_eq_ok ha hb h).2 Bool.false_ne_true)
  · exact fun fault h => equalsWithin_eq_error ha hb h
  · intro hshallow
    cases h : a.equals heap b with
    | ok result => exact ⟨result, rfl, equalsWithin_eq_ok ha hb h⟩
    | error fault => exact absurd (equalsWithin_eq_error ha hb h).2 hshallow

/-- With `x = [1, x]` and `y = [True, x]`, both unfold to one infinite tree. -/
theorem equals_sameTree_of_cycle :
    let heap : Heap := ⟨#[#[.int 1, .list 0], #[.bool true, .list 0]]⟩
    (Value.list 0).FloatFree heap ∧ (Value.list 1).FloatFree heap ∧
      (Value.list 0).equals heap (.list 1) = .ok true ∧
      ∀ path, (Value.list 0).nodeAt? heap path = (Value.list 1).nodeAt? heap path := by
  intro heap
  have hfree (id : ListId) : (Value.list id).FloatFree heap :=
    floatFree_of_heap (by simp [heap]) (by simp)
  exact ⟨hfree 0, hfree 1, rfl, (equals_sameTree (hfree 0) (hfree 1)).1 rfl⟩

end Equality

end Value

end Roundtable.Script
