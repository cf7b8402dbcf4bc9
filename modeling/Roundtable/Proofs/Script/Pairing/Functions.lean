import Roundtable.Proofs.Script.Pairing.Values
import Roundtable.Proofs.Script.Range
import Roundtable.Script.Builtin.Call
/-!
Operators and functions in two heaps at once. Applied to counterparts they give the same fault, or
counterparts: the same value, or items for a new list on each side that are counterparts one by one.
-/

namespace Roundtable.Script

/-- What was made are counterparts, or new lists with counterparts as their items. -/
inductive Made.Paired (pairs : Pairing) : Made → Made → Prop where
  | value {a a' : Value} : a.Paired pairs a' → Paired pairs (.value a) (.value a')
  | list {items items' : Array Value} :
      List.Forall₂ (Value.Paired pairs) items.toList items'.toList →
      Paired pairs (.list items) (.list items')

variable {pairs : Pairing} {room room' : Room} {heap heap' : Heap} {a a' b b' : Value}
  {items items' : List Value}

/-! ### Arithmetic -/

theorem Value.map_paired {α : Type} (x : Except RuntimeFault α) {f : α → Value}
    (hf : ∀ z id, f z ≠ .list id) : Outcomes (Value.Paired pairs) (f <$> x) (f <$> x) := by
  cases x with
  | error fault => exact .error fault
  | ok z => exact .ok (.same (hf z))

theorem signed_of_paired (op : UnaryOp) (ha : a.Paired pairs a') :
    Outcomes (Value.Paired pairs) (signed op a) (signed op a') := by
  unfold signed
  rw [ha.numeric?_eq, ha.type_eq]
  split
  · split
    · exact Value.map_paired _ nofun
    · exact .ok (.same nofun)
  · exact .ok (.same nofun)
  · exact .error _

theorem repeated_of_paired {part part' : Array Value}
    (h : List.Forall₂ (Value.Paired pairs) part.toList part'.toList) (times : Nat) :
    List.Forall₂ (Value.Paired pairs) (repeated #[] part times).toList
      (repeated #[] part' times).toList := by
  induction times using Nat.strongRecOn with
  | ind times ih =>
    rw [repeated, repeated.eq_def #[] part']
    split
    · exact .nil
    · rename_i hpositive
      have hhalf := ih (times / 2) (Nat.div_lt_self (Nat.pos_of_ne_zero hpositive) (by decide))
      have htwice := List.rel_append hhalf hhalf
      dsimp only
      split
      · rw [Array.toList_append, Array.toList_append]
        exact htwice
      · rw [Array.toList_append, Array.toList_append, Array.toList_append, Array.toList_append]
        exact List.rel_append htwice h

theorem repeatItems_of_paired {part part' : Array Value}
    (h : List.Forall₂ (Value.Paired pairs) part.toList part'.toList) (times : Nat) :
    Outcomes (Made.Paired pairs) (repeatItems part times) (repeatItems part' times) := by
  have hsize : part.size = part'.size := h.length_eq
  unfold repeatItems Array.isEmpty
  rw [hsize]
  split
  · exact .ok (.list .nil)
  · split
    · exact .error _
    · exact .ok (.list (repeated_of_paired h times))

theorem repeatBy?_of_paired (hheap : heap.Paired pairs heap') (ha : a.Paired pairs a')
    (hb : b.Paired pairs b') :
    Option.Rel (Outcomes (Made.Paired pairs)) (repeatBy? heap a b) (repeatBy? heap' a' b') := by
  unfold repeatBy?
  rw [hb.congr Value.repetitions? fun _ _ => rfl]
  cases b'.repetitions? with
  | none =>
      cases ha with
      | list => exact .none
      | same hvalue => cases a <;> exact .none
  | some times =>
      cases ha with
      | list hij => exact .some (repeatItems_of_paired (hheap.items hij) times)
      | same hvalue =>
          cases a with
          | list id => exact absurd rfl (hvalue id)
          | str text =>
              refine .some (.refl fun made hmade => ?_)
              unfold repeatString at hmade
              split at hmade
              · cases hmade
                exact .value (.same nofun)
              · split at hmade
                · cases hmade
                · cases hmade
                  exact .value (.same nofun)
          | _ => exact .none

theorem getD_or_of_rel {α β : Type} {related : α → β → Prop} {x y : Option α} {x' y' : Option β}
    {fallback : α} {fallback' : β} (hx : Option.Rel related x x') (hy : Option.Rel related y y')
    (hfallback : related fallback fallback') :
    related ((x.or y).getD fallback) ((x'.or y').getD fallback') := by
  cases hx with
  | some h => exact h
  | none =>
      cases hy with
      | some h => exact h
      | none => exact hfallback

theorem combine_of_paired (hheap : heap.Paired pairs heap') (op : BinaryOp)
    (ha : a.Paired pairs a') (hb : b.Paired pairs b') :
    Outcomes (Made.Paired pairs) (combine heap op a b) (combine heap' op a' b') := by
  unfold combine
  rw [ha.numeric?_eq, hb.numeric?_eq, ha.type_eq, hb.type_eq]
  split
  · refine (Outcomes.refl fun _ _ => rfl).map fun z z' (hz : z = z') => ?_
    subst hz
    exact .value (.same (by cases z <;> nofun))
  · cases op with
    | add =>
        cases ha with
        | list hij =>
            cases hb with
            | list hkl =>
                refine .ok (.list ?_)
                rw [Array.toList_append, Array.toList_append]
                exact List.rel_append (hheap.items hij) (hheap.items hkl)
            | same hother =>
                cases b with
                | list id => exact absurd rfl (hother id)
                | _ => exact .error _
        | same hvalue =>
            cases a with
            | list id => exact absurd rfl (hvalue id)
            | str text =>
                cases hb with
                | list hkl => exact .error _
                | same hother =>
                    cases b with
                    | str more => exact .ok (.value (.same nofun))
                    | list id => exact absurd rfl (hother id)
                    | _ => exact .error _
            | _ => exact .error _
    | mul =>
        exact getD_or_of_rel (repeatBy?_of_paired hheap ha hb) (repeatBy?_of_paired hheap hb ha)
          (.error _)
    | _ => exact .error _

theorem add_of_paired (hheap : heap.Paired pairs heap') {made made' : Made}
    (hmade : made.Paired pairs made') (ha : a.Paired pairs a') :
    Outcomes (Made.Paired pairs) (made.add heap a) (made'.add heap' a') := by
  cases hmade with
  | value htotal => exact combine_of_paired hheap .add htotal ha
  | list hitems =>
      cases ha with
      | list hij =>
          refine .ok (.list ?_)
          rw [Array.toList_append, Array.toList_append]
          exact List.rel_append hitems (hheap.items hij)
      | same hvalue =>
          cases a with
          | list id => exact absurd rfl (hvalue id)
          | _ => exact .error _

theorem foldlM_add_of_paired (hheap : heap.Paired pairs heap') {made made' : Made}
    (hmade : made.Paired pairs made') (hitems : List.Forall₂ (Value.Paired pairs) items items') :
    Outcomes (Made.Paired pairs) (items.foldlM (Made.add heap) made)
      (items'.foldlM (Made.add heap') made') := by
  induction hitems generalizing made made' with
  | nil => exact .ok hmade
  | cons hitem _ ih =>
      rw [List.foldlM_cons, List.foldlM_cons]
      exact (add_of_paired hheap hmade hitem).bind fun _ _ hnext => ih hnext

/-! ### Functions -/

theorem selectFrom_of_paired (hheap : heap.Paired pairs heap') (sign : String) (better : Ordering)
    (ha : a.Paired pairs a') (hitems : List.Forall₂ (Value.Paired pairs) items items') :
    Outcomes (Value.Paired pairs) (selectFrom heap sign better a items)
      (selectFrom heap' sign better a' items') := by
  induction hitems generalizing a a' with
  | nil => exact .ok ha
  | cons hitem _ ih =>
      unfold selectFrom
      rw [Value.order_eq_of_paired hheap sign hitem ha]
      split
      · exact .error _
      · split
        · exact ih hitem
        · exact ih ha

theorem extreme_of_paired (hheap : heap.Paired pairs heap') (function : Builtin) (sign : String)
    (better : Ordering) (hitems : List.Forall₂ (Value.Paired pairs) items items') :
    Outcomes (Value.Paired pairs) (extreme heap function sign better items)
      (extreme heap' function sign better items') := by
  cases hitems with
  | nil => exact .error _
  | cons hfirst hrest => exact selectFrom_of_paired hheap sign better hfirst hrest

theorem toInt_of_paired (ha : a.Paired pairs a') : Outcomes Eq a.toInt a'.toInt := by
  rw [ha.congr Value.toInt fun _ _ => rfl]
  exact .refl fun _ _ => rfl

theorem rangeItems_of_paired (start stop step : Int64) :
    Outcomes (Made.Paired pairs) (.list <$> rangeItems start stop step)
      (.list <$> rangeItems start stop step) := by
  refine (Outcomes.refl fun items hitems => ?_).map fun _ _ hitems => .list hitems
  apply Value.forall₂_paired_same
  unfold rangeItems at hitems
  split at hitems
  · cases hitems
  · rename_i hstep
    split at hitems
    · cases hitems
    · cases hitems
      rw [toList_rangeFrom hstep]
      simp

theorem roundNumber_paired (number : Numeric) (digits : Option Int) :
    Outcomes (Value.Paired pairs) (roundNumber number digits) (roundNumber number digits) := by
  unfold roundNumber
  split
  · exact .ok (.same nofun)
  · exact Value.map_paired _ nofun
  · split
    · exact .ok (.same nofun)
    · exact Value.map_paired _ nofun
  · exact .ok (.same nofun)

theorem roundValue_of_paired (ha : a.Paired pairs a') (hb : b.Paired pairs b') :
    Outcomes (Made.Paired pairs) (.value <$> roundValue a b) (.value <$> roundValue a' b') := by
  have hvalue : Outcomes (Value.Paired pairs) (roundValue a b) (roundValue a' b') := by
    unfold roundValue
    rw [ha.numeric?_eq, ha.type_eq, hb.congr roundingDigits fun _ _ => rfl]
    split
    · exact .error _
    · refine (Outcomes.refl fun _ _ => rfl).bind fun digits _ (heq : digits = _) => ?_
      subst heq
      exact roundNumber_paired _ digits
  exact hvalue.map fun _ _ hvalue => .value hvalue

/-- What a function makes that does not look at the places of lists, where it makes no list. -/
theorem Made.paired_of_congr {α : Type} {x y : Except RuntimeFault α} (heq : x = y)
    (f : α → Value) (hf : ∀ z id, f z ≠ .list id) :
    Outcomes (Made.Paired pairs) ((.value <| f ·) <$> x) ((.value <| f ·) <$> y) := by
  subst heq
  cases x with
  | error fault => exact .error fault
  | ok z => exact .ok (.value (.same (hf z)))

/-- Arguments in a number that a function does not take. -/
theorem wrongArity_of_paired (function : Builtin)
    (hitems : List.Forall₂ (Value.Paired pairs) items items') :
    Outcomes (Made.Paired pairs)
      (Except.error (RuntimeFault.type (.wrongArity function function.arity items.length)))
      (Except.error (RuntimeFault.type (.wrongArity function function.arity items'.length))) := by
  rw [hitems.length_eq]
  exact .error _

section Calls

variable (hheap : heap.Paired pairs heap') (hroom : room.Alike room')

include hheap hroom

theorem candidates_of_paired (function : Builtin)
    (hitems : List.Forall₂ (Value.Paired pairs) items items') :
    Outcomes (List.Forall₂ (Value.Paired pairs)) (candidates room heap function items)
      (candidates room' heap' function items') := by
  cases hitems with
  | nil => exact .error _
  | cons hfirst hrest =>
      cases hrest with
      | nil =>
          exact (Value.iterate_of_paired hheap hroom hfirst).map fun _ _ hitems => hitems
      | cons hsecond hrest => exact .ok (.cons hfirst (.cons hsecond hrest))

theorem sumItems_of_paired (ha : a.Paired pairs a') (hb : b.Paired pairs b') :
    Outcomes (Made.Paired pairs) (sumItems room heap a b) (sumItems room' heap' a' b') := by
  unfold sumItems
  rw [hb.type_eq]
  split
  · exact .error _
  · refine (Value.iterate_of_paired hheap hroom ha).bind fun items items' hitems => ?_
    rw [← Array.foldlM_toList, ← Array.foldlM_toList]
    exact foldlM_add_of_paired hheap (.value hb) hitems

theorem printedLine_eq_of_paired (hitems : List.Forall₂ (Value.Paired pairs) items items') :
    printedLine room heap items = printedLine room' heap' items' := by
  unfold printedLine
  rw [map_eq_map_of_forall₂ hitems fun _ _ hitem => Value.display_eq_of_paired hheap hroom hitem]

theorem choice_of_paired (function : Builtin) (sign : String) (better : Ordering)
    (hitems : List.Forall₂ (Value.Paired pairs) items items') :
    Outcomes (Made.Paired pairs)
      (do
        let offered ← candidates room heap function items
        return .value (← extreme heap function sign better offered))
      (do
        let offered ← candidates room' heap' function items'
        return .value (← extreme heap' function sign better offered)) := by
  refine (candidates_of_paired hheap hroom function hitems).bind fun _ _ hcandidates => ?_
  exact (extreme_of_paired hheap function sign better hcandidates).bind fun _ _ hbest =>
    .ok (.value hbest)

/-! What a function makes is told for each number of arguments. -/

omit hheap hroom in
theorem result_nil_paired (function : Builtin) :
    Outcomes (Made.Paired pairs) (function.result room heap []) (function.result room' heap' []) := by
  cases function with
  | print | str | int | float | bool => exact .ok (.value (.same nofun))
  | list => exact .ok (.list .nil)
  | _ => exact .error _

theorem result_one_paired (function : Builtin) (ha : a.Paired pairs a') :
    Outcomes (Made.Paired pairs) (function.result room heap [a])
      (function.result room' heap' [a']) := by
  cases function with
  | print => exact .ok (.value (.same nofun))
  | len =>
      dsimp only [Builtin.result]
      rw [Value.length?_eq_of_paired hheap hroom ha, ha.type_eq]
      split
      · exact Made.paired_of_congr rfl _ nofun
      · exact .error _
  | str =>
      dsimp only [Builtin.result]
      rw [Value.display_eq_of_paired hheap hroom ha]
      exact .ok (.value (.same nofun))
  | repr =>
      dsimp only [Builtin.result]
      rw [Value.repr_eq_of_paired hheap hroom ha]
      exact .ok (.value (.same nofun))
  | int => exact Made.paired_of_congr (ha.congr Value.convertToInt fun _ _ => rfl) _ nofun
  | float => exact Made.paired_of_congr (ha.congr Value.convertToFloat fun _ _ => rfl) _ nofun
  | bool =>
      dsimp only [Builtin.result]
      rw [Value.isTruthy_eq_of_paired hheap hroom ha]
      exact .ok (.value (.same nofun))
  | type =>
      dsimp only [Builtin.result]
      rw [ha.type_eq]
      exact .ok (.value (.same nofun))
  | abs =>
      dsimp only [Builtin.result]
      rw [ha.numeric?_eq, ha.type_eq]
      split
      · exact Made.paired_of_congr rfl _ nofun
      · exact .ok (.value (.same nofun))
      · exact .error _
  | min | max => exact choice_of_paired hheap hroom _ _ _ (.cons ha .nil)
  | sum => exact sumItems_of_paired hheap hroom ha (.same nofun)
  | round => exact roundValue_of_paired ha (.same nofun)
  | range =>
      refine (toInt_of_paired ha).bind fun stop _ hstop => ?_
      subst hstop
      exact rangeItems_of_paired 0 stop 1
  | list => exact (Value.iterate_of_paired hheap hroom ha).map fun _ _ hitems => .list hitems

theorem result_two_paired (function : Builtin) (ha : a.Paired pairs a') (hb : b.Paired pairs b') :
    Outcomes (Made.Paired pairs) (function.result room heap [a, b])
      (function.result room' heap' [a', b']) := by
  cases function with
  | print => exact .ok (.value (.same nofun))
  | min | max => exact choice_of_paired hheap hroom _ _ _ (.cons ha (.cons hb .nil))
  | sum => exact sumItems_of_paired hheap hroom ha hb
  | round => exact roundValue_of_paired ha hb
  | range =>
      refine (toInt_of_paired ha).bind fun start _ hstart => ?_
      refine (toInt_of_paired hb).bind fun stop _ hstop => ?_
      subst hstart hstop
      exact rangeItems_of_paired start stop 1
  | _ => exact .error _

/-- Three arguments at the least: `range` takes three, and no function but those of any number more. -/
theorem result_more_paired {c c' : Value} (function : Builtin) (ha : a.Paired pairs a')
    (hb : b.Paired pairs b') (hc : c.Paired pairs c')
    (hitems : List.Forall₂ (Value.Paired pairs) items items') :
    Outcomes (Made.Paired pairs) (function.result room heap (a :: b :: c :: items))
      (function.result room' heap' (a' :: b' :: c' :: items')) := by
  have hall : List.Forall₂ (Value.Paired pairs) (a :: b :: c :: items) (a' :: b' :: c' :: items') :=
    .cons ha (.cons hb (.cons hc hitems))
  cases function with
  | print => exact .ok (.value (.same nofun))
  | min | max => exact choice_of_paired hheap hroom _ _ _ hall
  | range =>
      cases hitems with
      | nil =>
          refine (toInt_of_paired ha).bind fun start _ hstart => ?_
          refine (toInt_of_paired hb).bind fun stop _ hstop => ?_
          refine (toInt_of_paired hc).bind fun step _ hstep => ?_
          subst hstart hstop hstep
          exact rangeItems_of_paired start stop step
      | cons => exact wrongArity_of_paired _ hall
  | _ => exact wrongArity_of_paired _ hall

theorem result_of_paired (function : Builtin)
    (hitems : List.Forall₂ (Value.Paired pairs) items items') :
    Outcomes (Made.Paired pairs) (function.result room heap items)
      (function.result room' heap' items') := by
  cases hitems with
  | nil => exact result_nil_paired function
  | cons ha hrest =>
      cases hrest with
      | nil => exact result_one_paired hheap hroom function ha
      | cons hb hrest =>
          cases hrest with
          | nil => exact result_two_paired hheap hroom function ha hb
          | cons hc hrest => exact result_more_paired hheap hroom function ha hb hc hrest

end Calls

end Roundtable.Script
