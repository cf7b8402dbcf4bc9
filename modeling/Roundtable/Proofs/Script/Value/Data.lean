import Mathlib.Data.Set.Defs
import Mathlib.Logic.Relation
import Roundtable.Proofs.Script.Grammar.Statements
import Roundtable.Script.Value.Printer
/-!
Plain data: what is made of `None`, truth values, integers, strings and lists of them, where no list
contains itself. Such a value is a finite tree, and its text and the tokens of that text depend on
the tree alone: not on the places of its lists, nor on whether two of them are one and the same.
-/

namespace Roundtable.Script

/-- Plain data as a tree. -/
inductive Datum where
  | none
  | bool (value : Bool)
  /-- The least integer is left out. It has no literal, since a numeral is read without its sign. -/
  | int (value : Int64) (readable : value ≠ Int64.minValue)
  | str (text : String)
  | list (items : List Datum)

namespace Datum

@[induction_eliminator]
theorem itemwise {motive : Datum → Prop} (none : motive .none)
    (bool : ∀ value, motive (.bool value))
    (int : ∀ value readable, motive (.int value readable)) (str : ∀ text, motive (.str text))
    (list : ∀ items, (∀ item ∈ items, motive item) → motive (.list items)) (datum : Datum) :
    motive datum := by
  match datum with
  | .none => exact none
  | .bool value => exact bool value
  | .int value readable => exact int value readable
  | .str text => exact str text
  | .list items => exact list items fun item _ => itemwise none bool int str list item

/-- How many levels of nesting the text of the data takes: one for a sign, and one for the items of a
list. -/
def cost : Datum → Nat
  | .none | .bool _ | .str _ => 0
  | .int value _ => if value < 0 then 1 else 0
  | .list items => (items.map fun item => item.cost + 1).foldr max 0

/-- The tokens of the text of the data. -/
def tokens : Datum → List Token
  | .none => [.keyword .none]
  | .bool value => [.keyword (if value then .true else .false)]
  | .int value _ => if value < 0 then [.symbol .minus, .int (-value)] else [.int value]
  | .str text => [.str text]
  | .list items =>
    .symbol .leftBracket :: [.symbol .comma].intercalate (items.map fun item => item.tokens) ++
      [.symbol .rightBracket]

/-- The expression that builds the data. -/
def expr : Datum → Expr
  | .none => .none
  | .bool value => .bool value
  | .int value _ => if value < 0 then .unary .neg (.int (-value)) else .int value
  | .str text => .str text
  | .list items => .list (items.map fun item => item.expr)

end Datum

/-! ### The tree of a value -/

namespace Value

/-- The first value is a list, and the second one of its items. -/
def HasItem (heap : Heap) : Value → Value → Prop
  | .list id, item => item ∈ (heap.items id).toList
  | _, _ => False

/-- The lists that a value leads to through the items of lists, itself among them if it is one. -/
def reachable (heap : Heap) (value : Value) : Set ListId :=
  {id | Relation.ReflTransGen (HasItem heap) value (.list id)}

/-- No list contains itself, neither the value nor any within it. -/
def Acyclic (heap : Heap) (value : Value) : Prop :=
  ∀ part, Relation.ReflTransGen (HasItem heap) value part →
    ¬Relation.TransGen (HasItem heap) part part

/-- A value of a kind that data is made of. -/
def IsPlain : Value → Prop
  | .none | .bool _ | .str _ | .list _ => True
  | .int value => value ≠ Int64.minValue
  | _ => False

/-- The value and everything within it is of the kinds that data is made of. -/
def Plain (heap : Heap) (value : Value) : Prop :=
  ∀ part, Relation.ReflTransGen (HasItem heap) value part → part.IsPlain

/-- The value has this tree. -/
inductive Unfolds (heap : Heap) : Value → Datum → Prop where
  | none : Unfolds heap .none .none
  | bool (value : Bool) : Unfolds heap (.bool value) (.bool value)
  | int (value : Int64) (readable : value ≠ Int64.minValue) :
      Unfolds heap (.int value) (.int value readable)
  | str (text : String) : Unfolds heap (.str text) (.str text)
  | list {id : ListId} {items : List Datum} :
      List.Forall₂ (Unfolds heap) (heap.items id).toList items →
      Unfolds heap (.list id) (.list items)

variable {heap : Heap} {value item : Value} {datum : Datum}

theorem Acyclic.inner (h : value.Acyclic heap) (hitem : value.HasItem heap item) :
    item.Acyclic heap :=
  fun part hpart => h part (hpart.head hitem)

theorem Plain.inner (h : value.Plain heap) (hitem : value.HasItem heap item) : item.Plain heap :=
  fun part hpart => h part (hpart.head hitem)

theorem Unfolds.unique {other : Datum} (h : value.Unfolds heap datum)
    (hother : value.Unfolds heap other) : datum = other := by
  induction datum generalizing value other with
  | list items ih =>
      cases h with
      | list hitems =>
          cases hother with
          | list hothers =>
              have hunique : ∀ item ∈ items, ∀ (part : Value) (inner : Datum),
                  part.Unfolds heap item → part.Unfolds heap inner → item = inner :=
                fun item hitem _ _ hfirst hsecond => ih item hitem hfirst hsecond
              rw [forall₂_right_unique hunique hitems hothers]
  | _ =>
      cases h
      cases hother
      rfl

/-- The lists that lead to a value do not hold it again if it is acyclic. -/
theorem Acyclic.not_mem {opened : List ListId} {id : ListId} (h : (Value.list id).Acyclic heap)
    (hopened : ∀ outer ∈ opened, Relation.TransGen (HasItem heap) (.list outer) (.list id)) :
    id ∉ opened :=
  fun hid => h (.list id) .refl (hopened id hid)

theorem transGen_item {opened : List ListId} {id : ListId}
    (hopened : ∀ outer ∈ opened, Relation.TransGen (HasItem heap) (.list outer) (.list id))
    (hitem : HasItem heap (.list id) item) :
    ∀ outer ∈ id :: opened, Relation.TransGen (HasItem heap) (.list outer) item := by
  intro outer houter
  rcases List.mem_cons.1 houter with rfl | houter
  · exact .single hitem
  · exact (hopened outer houter).tail hitem

/-- The induction is on the number of lists in the heap that do not lead to the value: an acyclic
list is one of them, and leads to its items. -/
theorem exists_unfolds_within (opened : List ListId) (value : Value)
    (hopened : ∀ outer ∈ opened, Relation.TransGen (HasItem heap) (.list outer) value)
    (hacyclic : value.Acyclic heap) (hplain : value.Plain heap) :
    ∃ datum, value.Unfolds heap datum := by
  have hkind := hplain value .refl
  match value with
  | .none => exact ⟨.none, .none⟩
  | .bool value => exact ⟨.bool value, .bool value⟩
  | .int value => exact ⟨.int value hkind, .int value hkind⟩
  | .str text => exact ⟨.str text, .str text⟩
  | .list id =>
      have hclosed := hacyclic.not_mem hopened
      have hitems : ∃ items, List.Forall₂ (Unfolds heap) (heap.items id).toList items := by
        by_cases hknown : id < heap.lists.size
        · refine exists_forall₂_iff.2 fun item hitem => ?_
          exact exists_unfolds_within (id :: opened) item (transGen_item hopened hitem)
            (hacyclic.inner hitem) (hplain.inner hitem)
        · rw [heap.items_eq_empty hknown]
          exact ⟨[], .nil⟩
      obtain ⟨items, hitems⟩ := hitems
      exact ⟨.list items, .list hitems⟩
termination_by heap.unopened opened
decreasing_by exact heap.unopened_lt hknown hclosed

/-- What is within a value has its tree within the tree of the value. -/
theorem Unfolds.inner (h : value.Unfolds heap datum) (hitem : value.HasItem heap item) :
    ∃ inner, item.Unfolds heap inner ∧ sizeOf inner < sizeOf datum := by
  cases h with
  | @list id items hitems =>
      obtain ⟨inner, hinner, hunfolds⟩ := exists_mem_of_forall₂ hitems item hitem
      have hsmaller := List.sizeOf_lt_of_mem hinner
      exact ⟨inner, hunfolds, by rw [Datum.list.sizeOf_spec]; omega⟩
  | _ => cases hitem

theorem Unfolds.plain (h : value.Unfolds heap datum) : value.Plain heap := by
  intro part hpart
  induction hpart using Relation.ReflTransGen.head_induction_on generalizing datum with
  | refl => cases h <;> trivial
  | head hitem _ ih =>
      obtain ⟨inner, hinner, -⟩ := h.inner hitem
      exact ih hinner

theorem Unfolds.lt_of_transGen (h : value.Unfolds heap datum)
    (hitem : Relation.TransGen (HasItem heap) value item) :
    ∃ inner, item.Unfolds heap inner ∧ sizeOf inner < sizeOf datum := by
  induction hitem with
  | single hitem => exact h.inner hitem
  | tail _ hitem ih =>
      obtain ⟨outer, houter, hless⟩ := ih
      obtain ⟨inner, hinner, hsmaller⟩ := houter.inner hitem
      exact ⟨inner, hinner, Nat.lt_trans hsmaller hless⟩

theorem Unfolds.acyclic (h : value.Unfolds heap datum) : value.Acyclic heap := by
  intro part hpart hcycle
  have hinner : ∃ inner, part.Unfolds heap inner := by
    rcases Relation.reflTransGen_iff_eq_or_transGen.1 hpart with rfl | hpart
    · exact ⟨datum, h⟩
    · obtain ⟨inner, hinner, -⟩ := h.lt_of_transGen hpart
      exact ⟨inner, hinner⟩
  obtain ⟨inner, hinner⟩ := hinner
  obtain ⟨again, hagain, hless⟩ := hinner.lt_of_transGen hcycle
  rw [hinner.unique hagain] at hless
  exact Nat.lt_irrefl _ hless

/-- Plain data are the values that have a tree. -/
theorem exists_unfolds_iff :
    (∃ datum, value.Unfolds heap datum) ↔ value.Acyclic heap ∧ value.Plain heap :=
  ⟨fun ⟨_, h⟩ => ⟨h.acyclic, h.plain⟩, fun h => exists_unfolds_within [] value (by simp) h.1 h.2⟩

end Value

end Roundtable.Script
