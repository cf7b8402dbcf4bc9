import Roundtable.Proofs.Script.Range
import Roundtable.Proofs.Script.Value.Coherence
/-!
The least and the greatest of a sequence. Each item is compared with the best one so far and with no
other. Since the order is coherent, what was found of a best item is still true of the one that takes
its place, so the last of them has an order with every item of the sequence: it bounds them all, and
no item before it is equal to it.
-/

namespace Roundtable.Script

section Laws

variable {α : Type} {P : α → Prop} {equal : α → α → Except RuntimeFault Bool}
  {order : α → α → Except RuntimeFault (Option Ordering)} {a b c : α}

/-- An order is transitive in either direction. -/
theorem OrderLaws.trans_strict (laws : OrderLaws P equal order) {side : Ordering}
    (hside : side ≠ .eq) (ha : P a) (hb : P b) (hc : P c) (hfirst : order a b = .ok (some side))
    (hsecond : order b c = .ok (some side)) : order a c = .ok (some side) := by
  cases side with
  | lt => exact laws.trans ha hb hc hfirst hsecond
  | eq => exact absurd rfl hside
  | gt =>
      have hback : order c a = .ok (some .lt) :=
        laws.trans hc hb ha (laws.swap hb hc hsecond) (laws.swap ha hb hfirst)
      exact laws.swap hc ha hback

/-- What is ordered as equal has the same order with everything else. -/
theorem OrderLaws.of_eq (laws : OrderLaws P equal order) {answer : Option Ordering} (ha : P a)
    (hb : P b) (hc : P c) (hsame : order a b = .ok (some .eq)) (h : order b c = .ok answer) :
    order a c = .ok answer := by
  obtain ⟨found, hfound, hequal⟩ := laws.decides ha hb hsame
  cases hfound
  exact laws.congr ha hb hc hequal h

end Laws

namespace Value

variable {heap : Heap} {sign : String} {a b : Value} {answer : Option Ordering}

theorem itemsOrder_imp {equal : Value → Value → Except RuntimeFault Bool}
    {order other : Value → Value → Except RuntimeFault (Option Ordering)} {left right : List Value}
    (himp : ∀ a b, order a b = .ok answer → other a b = .ok answer)
    (h : itemsOrder equal order left right = .ok answer) :
    itemsOrder equal other left right = .ok answer := by
  induction left generalizing right with
  | nil => exact h
  | cons a left ih =>
      cases right with
      | nil => exact h
      | cons b right =>
          rcases itemsOrder_cons_eq_ok h with ⟨hhead, htail⟩ | ⟨hhead, horder⟩
          · rw [itemsOrder_cons_of_true hhead]
            exact ih htail
          · rw [itemsOrder_cons_of_false hhead]
            exact himp a b horder

/-- The sign that asks for an order is only told in a fault. -/
theorem orderWithin_sign {levels : Nat} (h : orderWithin heap sign levels a b = .ok answer)
    (other : String) : orderWithin heap other levels a b = .ok answer := by
  induction levels using Nat.strongRecOn generalizing a b with
  | ind levels ih =>
      unfold orderWithin at h ⊢
      split at h
      · exact h
      · split at h
        · exact h
        · cases levels with
          | zero => exact h
          | succ levels => exact itemsOrder_imp (fun _ _ => ih levels levels.lt_succ_self) h
        · cases h

end Value

/-- The item at a position is the best of a sequence, and the first such: the items before it are
strictly worse, and those behind it are worse or equal. -/
structure Selected (heap : Heap) (better : Ordering) (items : List Value) (position : Nat)
    (best : Value) : Prop where
  here : items[position]? = some best
  before : ∀ (sign : String) (other : Nat) (item : Value), other < position →
    items[other]? = some item → item.order heap sign best = .ok (some better.swap)
  behind : ∀ (sign : String) (other : Nat) (item : Value), position < other →
    items[other]? = some item → item.order heap sign best = .ok (some better.swap) ∨
      item.order heap sign best = .ok (some .eq)

namespace Selected

variable {heap : Heap} {sign : String} {better found : Ordering} {items : List Value}
  {position : Nat} {best item chosen : Value}

theorem singleton (heap : Heap) (better : Ordering) (first : Value) :
    Selected heap better [first] 0 first where
  here := rfl
  before := nofun
  behind sign other item hother h := by
    have hoff : [first][other]? = none := List.getElem?_eq_none hother
    rw [hoff] at h
    cases h

/-- An item that is no better leaves the best one where it is. -/
theorem keep (h : Selected heap better items position best)
    (horder : item.order heap sign best = .ok (some found))
    (hworse : found = better.swap ∨ found = .eq) :
    Selected heap better (items ++ [item]) position best := by
  have hlength : position < items.length := (List.getElem?_eq_some_iff.1 h.here).1
  refine ⟨?_, fun sign other met hother hmet => ?_, fun sign other met hother hmet => ?_⟩
  · rw [List.getElem?_append_left hlength]
    exact h.here
  · rw [List.getElem?_append_left (Nat.lt_trans hother hlength)] at hmet
    exact h.before sign other met hother hmet
  · rw [List.getElem?_append] at hmet
    split at hmet
    · exact h.behind sign other met hother hmet
    · obtain rfl : met = item := List.mem_singleton.1 (List.mem_of_getElem? hmet)
      rcases hworse with rfl | rfl
      · exact .inl (Value.orderWithin_sign horder sign)
      · exact .inr (Value.orderWithin_sign horder sign)

/-- A better item is strictly better than all that the best one so far was compared with. -/
theorem replace (h : Selected heap better items position best)
    (hfree : ∀ other ∈ items, other.FloatFree heap) (hitem : item.FloatFree heap)
    (hstrict : better ≠ .eq) (horder : item.order heap sign best = .ok (some better)) :
    Selected heap better (items ++ [item]) items.length item := by
  have hbest : best.FloatFree heap := hfree best (List.mem_of_getElem? h.here)
  refine ⟨by simp, fun sign other met hother hmet => ?_, fun sign other met hother hmet => ?_⟩
  · rw [List.getElem?_append_left hother] at hmet
    have hmetFree : met.FloatFree heap := hfree met (List.mem_of_getElem? hmet)
    have laws := Value.orderLaws heap sign maxCompareDepth
    have hback : best.order heap sign item = .ok (some better.swap) :=
      laws.swap hitem hbest (Value.orderWithin_sign horder sign)
    have htrans (hmetOrder : met.order heap sign best = .ok (some better.swap)) :
        met.order heap sign item = .ok (some better.swap) :=
      laws.trans_strict (by simpa using hstrict) hmetFree hbest hitem hmetOrder hback
    rcases Nat.lt_trichotomy other position with hless | rfl | hgreater
    · exact htrans (h.before sign other met hless hmet)
    · rw [h.here] at hmet
      cases hmet
      exact hback
    · rcases h.behind sign other met hgreater hmet with hworse | hsame
      · exact htrans hworse
      · exact laws.of_eq hmetFree hbest hitem hsame hback
  · rw [List.getElem?_eq_none (by simp; omega)] at hmet
    cases hmet

end Selected

/-! ### The selection -/

section Selection

variable {heap : Heap} {sign : String} {better : Ordering} {position : Nat} {best chosen : Value}

/-- The induction is on the items to come; `seen` are those that the best one was found among. -/
theorem selectFrom_selects (hstrict : better ≠ .eq) {seen items : List Value}
    (hseen : ∀ item ∈ seen, item.FloatFree heap) (hitems : ∀ item ∈ items, item.FloatFree heap)
    (hbest : Selected heap better seen position best)
    (h : selectFrom heap sign better best items = .ok chosen) :
    ∃ position, Selected heap better (seen ++ items) position chosen := by
  induction items generalizing seen position best with
  | nil =>
      cases h
      exact ⟨position, by rwa [List.append_nil]⟩
  | cons item items ih =>
      obtain ⟨hitem, hrest⟩ := List.forall_mem_cons.1 hitems
      have hmore : ∀ other ∈ seen ++ [item], other.FloatFree heap := by
        simpa [or_imp, forall_and] using And.intro hseen hitem
      have hbestFree : best.FloatFree heap := hseen best (List.mem_of_getElem? hbest.here)
      rw [List.append_cons]
      unfold selectFrom at h
      cases horder : item.order heap sign best with
      | error fault =>
          rw [horder] at h
          cases h
      | ok answer =>
          obtain ⟨found, rfl, -⟩ :=
            (Value.orderLaws heap sign maxCompareDepth).decides hitem hbestFree horder
          rw [horder] at h
          dsimp only at h
          split at h
          · rename_i hbetter
            rw [hbetter] at horder
            exact ih hmore hrest (hbest.replace hseen hitem hstrict horder) h
          · rename_i hworse
            have hside : found = better.swap ∨ found = .eq := by
              cases found <;> cases better <;> simp_all
            exact ih hmore hrest (hbest.keep horder hside) h

theorem extreme_selects {function : Builtin} (hstrict : better ≠ .eq) {items : List Value}
    (hitems : ∀ item ∈ items, item.FloatFree heap)
    (h : extreme heap function sign better items = .ok chosen) :
    ∃ position, Selected heap better items position chosen := by
  cases items with
  | nil => cases h
  | cons first items =>
      obtain ⟨hfirst, hrest⟩ := List.forall_mem_cons.1 hitems
      exact selectFrom_selects hstrict (by simpa using hfirst) hrest
        (.singleton heap better first) h

/-- The sequence that arguments offer for a choice: the items of a single one, or two or more
arguments themselves. -/
inductive Offered (room : Room) (heap : Heap) : List Value → List Value → Prop where
  | items {iterable : Value} {items : Array Value} : iterable.iterate room heap = .ok items →
      Offered room heap [iterable] items.toList
  | arguments (first second : Value) (rest : List Value) :
      Offered room heap (first :: second :: rest) (first :: second :: rest)

theorem Offered.candidates {room : Room} {arguments items : List Value}
    (h : Offered room heap arguments items) (function : Builtin) :
    candidates room heap function arguments = .ok items := by
  cases h with
  | items hitems => exact congrArg (Array.toList <$> ·) hitems
  | arguments => rfl

variable {ω : Type} [Sink ω] {room : Room} {memory after : Memory ω} {arguments items : List Value}

/-- A call of a function that selects, with `better` as the side that takes over. -/
theorem selection_call {function : Builtin} (hquiet : function ≠ .print) (hstrict : better ≠ .eq)
    (hresult : function.result room memory.heap arguments = do
      return .value (← extreme memory.heap function sign better
        (← candidates room memory.heap function arguments)))
    (hoffered : Offered room memory.heap arguments items)
    (hitems : ∀ item ∈ items, item.FloatFree memory.heap)
    (h : (Value.builtin function).call room arguments memory = .ok best after) :
    ∃ position, Selected memory.heap better items position best := by
  have hmade : function.result room memory.heap arguments =
      .value <$> extreme memory.heap function sign better items := by
    rw [hresult, hoffered.candidates function]
    change (extreme memory.heap function sign better items >>= fun best => pure (Made.value best)) = _
    cases extreme memory.heap function sign better items <;> rfl
  rw [call_builtin room hquiet, hmade] at h
  cases hbest : extreme memory.heap function sign better items with
  | error fault =>
      rw [hbest] at h
      cases h
  | ok chosen =>
      rw [hbest] at h
      cases h
      exact extreme_selects hstrict hitems hbest

/-- What `min` and `max` give is an item that has an order with every other one, though it was not
compared with all of them: no item is less, or none greater, and those before it are not equal
either. -/
theorem min_max_call (hoffered : Offered room memory.heap arguments items)
    (hitems : ∀ item ∈ items, item.FloatFree memory.heap) :
    ((Value.builtin .min).call room arguments memory = .ok best after →
      ∃ position, Selected memory.heap .lt items position best) ∧
    ((Value.builtin .max).call room arguments memory = .ok best after →
      ∃ position, Selected memory.heap .gt items position best) :=
  ⟨selection_call nofun nofun rfl hoffered hitems, selection_call nofun nofun rfl hoffered hitems⟩

/-- With `x = [x, 1]`, the least of `[x, 2]`, `x` and `[x, True]` is the second, which is equal to the
third. -/
theorem min_max_call_of_cycle :
    let heap : Heap := ⟨#[#[.list 0, .int 1], #[.list 0, .bool true], #[.list 0, .int 2]]⟩
    let memory : Memory Output := ⟨heap, .unbounded⟩
    let arguments : List Value := [.list 2, .list 0, .list 1]
    Offered .empty heap arguments arguments ∧ (∀ item ∈ arguments, item.FloatFree heap) ∧
      (Value.builtin .min).call .empty arguments memory = .ok (.list 0) memory ∧
      ∃ position, Selected heap .lt arguments position (.list 0) := by
  intro heap memory arguments
  have hoffered : Offered .empty heap arguments arguments := .arguments _ _ _
  have hfree : ∀ item ∈ arguments, item.FloatFree heap := by
    intro item hitem
    refine Value.floatFree_of_heap (by simp [heap]) fun x => ?_
    rintro rfl
    simp [arguments] at hitem
  have hcall : (Value.builtin .min).call .empty arguments memory = .ok (.list 0) memory := by rfl
  exact ⟨hoffered, hfree, hcall, (min_max_call hoffered hfree).1 hcall⟩

end Selection

end Roundtable.Script
