import Roundtable.Proofs.Script.Value.Unfolding
/-!
Equality and order as one coherent order. Both may lack an answer, so each law says which answers
follow from which: an operand can be replaced by an equal one, an order is the reverse of that of the
swapped operands, and it is transitive. What holds of the comparison of items holds of that of
sequences, and so, level by level, of values.
-/

namespace Roundtable.Script

section Laws

variable {α β : Type}

/-- Laws of an equality on what `P` holds of, for the answers that it gives. -/
structure EqualityLaws (P : α → Prop) (equal : α → α → Except RuntimeFault Bool) : Prop where
  refl : ∀ {a}, P a → equal a a = .ok true
  symm : ∀ {a b}, P a → P b → equal a b = equal b a
  congr : ∀ {a b c answer}, P a → P b → P c → equal a b = .ok true → equal b c = .ok answer →
    equal a c = .ok answer

/-- Laws of an order beside an equality on what `P` holds of, for the answers that it gives. -/
structure OrderLaws (P : α → Prop) (equal : α → α → Except RuntimeFault Bool)
    (order : α → α → Except RuntimeFault (Option Ordering)) : Prop where
  swap : ∀ {a b answer}, P a → P b → order a b = .ok answer →
    order b a = .ok (answer.map Ordering.swap)
  decides : ∀ {a b answer}, P a → P b → order a b = .ok answer →
    ∃ found, answer = some found ∧ equal a b = .ok (found = .eq)
  trans : ∀ {a b c}, P a → P b → P c → order a b = .ok (some .lt) → order b c = .ok (some .lt) →
    order a c = .ok (some .lt)
  congr : ∀ {a b c answer}, P a → P b → P c → equal a b = .ok true → order b c = .ok answer →
    order a c = .ok answer

theorem EqualityLaws.comap {P : α → Prop} {equal : α → α → Except RuntimeFault Bool}
    (laws : EqualityLaws P equal) {Q : β → Prop} {f : β → α} (hf : ∀ {x}, Q x → P (f x)) :
    EqualityLaws Q fun x y => equal (f x) (f y) where
  refl hx := laws.refl (hf hx)
  symm hx hy := laws.symm (hf hx) (hf hy)
  congr hx hy hz := laws.congr (hf hx) (hf hy) (hf hz)

theorem OrderLaws.comap {P : α → Prop} {equal : α → α → Except RuntimeFault Bool}
    {order : α → α → Except RuntimeFault (Option Ordering)} (laws : OrderLaws P equal order)
    {Q : β → Prop} {f : β → α} (hf : ∀ {x}, Q x → P (f x)) :
    OrderLaws Q (fun x y => equal (f x) (f y)) fun x y => order (f x) (f y) where
  swap hx hy := laws.swap (hf hx) (hf hy)
  decides hx hy := laws.decides (hf hx) (hf hy)
  trans hx hy hz := laws.trans (hf hx) (hf hy) (hf hz)
  congr hx hy hz := laws.congr (hf hx) (hf hy) (hf hz)

theorem OrderLaws.congr_right {P : α → Prop} {equal : α → α → Except RuntimeFault Bool}
    {order : α → α → Except RuntimeFault (Option Ordering)} (laws : OrderLaws P equal order)
    (equality : EqualityLaws P equal) {a b c : α} {answer : Option Ordering} (ha : P a) (hb : P b)
    (hc : P c) (hsame : equal b c = .ok true) (h : order a b = .ok answer) :
    order a c = .ok answer := by
  rw [equality.symm hb hc] at hsame
  have hswapped := laws.swap hc ha (laws.congr hc hb ha hsame (laws.swap ha hb h))
  simpa [Function.comp_def] using hswapped

end Laws

section Sequences

variable {P : Value → Prop} {equal : Value → Value → Except RuntimeFault Bool}
  {order : Value → Value → Except RuntimeFault (Option Ordering)} {a b : Value}
  {left right : List Value}

theorem itemsEqual_cons_of_true (h : equal a b = .ok true) :
    itemsEqual equal (a :: left) (b :: right) = itemsEqual equal left right := by
  simp [itemsEqual, h]

theorem itemsEqual_cons_of_ne (h : equal a b ≠ .ok true) :
    itemsEqual equal (a :: left) (b :: right) = equal a b := by
  unfold itemsEqual
  split
  · exact absurd ‹_› h
  · rfl

theorem itemsEqual_cons_eq_true : itemsEqual equal (a :: left) (b :: right) = .ok true ↔
    equal a b = .ok true ∧ itemsEqual equal left right = .ok true := by
  by_cases h : equal a b = .ok true
  · simp [itemsEqual_cons_of_true h, h]
  · simp [itemsEqual_cons_of_ne h, h]

theorem itemsEqual_symm (laws : EqualityLaws P equal) (hleft : ∀ item ∈ left, P item)
    (hright : ∀ item ∈ right, P item) :
    itemsEqual equal left right = itemsEqual equal right left := by
  induction left generalizing right with
  | nil => cases right <;> rfl
  | cons a left ih =>
      cases right with
      | nil => rfl
      | cons b right =>
          obtain ⟨ha, hleft⟩ := List.forall_mem_cons.1 hleft
          obtain ⟨hb, hright⟩ := List.forall_mem_cons.1 hright
          unfold itemsEqual
          rw [laws.symm ha hb, ih hleft hright]

theorem itemsEqual_congr (laws : EqualityLaws P equal) {middle : List Value} {answer : Bool}
    (hleft : ∀ item ∈ left, P item) (hmiddle : ∀ item ∈ middle, P item)
    (hright : ∀ item ∈ right, P item) (hlength : left.length = middle.length)
    (hsame : itemsEqual equal left middle = .ok true)
    (h : itemsEqual equal middle right = .ok answer) :
    itemsEqual equal left right = .ok answer := by
  induction left generalizing middle right with
  | nil =>
      cases List.length_eq_zero_iff.1 hlength.symm
      exact h
  | cons a left ih =>
      cases middle with
      | nil => cases hlength
      | cons b middle =>
          cases right with
          | nil => exact h
          | cons c right =>
              obtain ⟨ha, hleft⟩ := List.forall_mem_cons.1 hleft
              obtain ⟨hb, hmiddle⟩ := List.forall_mem_cons.1 hmiddle
              obtain ⟨hc, hright⟩ := List.forall_mem_cons.1 hright
              obtain ⟨hhead, htail⟩ := itemsEqual_cons_eq_true.1 hsame
              by_cases hbc : equal b c = .ok true
              · rw [itemsEqual_cons_of_true hbc] at h
                rw [itemsEqual_cons_of_true (laws.congr ha hb hc hhead hbc)]
                exact ih hleft hmiddle hright (Nat.succ.inj hlength) htail h
              · rw [itemsEqual_cons_of_ne hbc] at h
                have hac : equal a c = .ok answer := laws.congr ha hb hc hhead h
                rw [itemsEqual_cons_of_ne (by rwa [hac, ← h]), hac]

/-- Equality of sequences, whose items are looked at only if there are as many. -/
def sequencesEqual (equal : Value → Value → Except RuntimeFault Bool) (left right : List Value) :
    Except RuntimeFault Bool :=
  if left.length = right.length then itemsEqual equal left right else .ok false

theorem sequencesEqual_eq_true : sequencesEqual equal left right = .ok true ↔
    left.length = right.length ∧ itemsEqual equal left right = .ok true := by
  unfold sequencesEqual
  split <;> simp_all

theorem EqualityLaws.sequences (laws : EqualityLaws P equal) :
    EqualityLaws (fun items => ∀ item ∈ items, P item) (sequencesEqual equal) where
  refl {items} hitems := by
    refine sequencesEqual_eq_true.2 ⟨rfl, ?_⟩
    induction items with
    | nil => rfl
    | cons a items ih =>
        obtain ⟨ha, hitems⟩ := List.forall_mem_cons.1 hitems
        exact itemsEqual_cons_eq_true.2 ⟨laws.refl ha, ih hitems⟩
  symm {left right} hleft hright := by
    unfold sequencesEqual
    simp only [eq_comm, itemsEqual_symm laws hleft hright]
  congr {left middle right answer} hleft hmiddle hright hsame h := by
    obtain ⟨hlength, hitems⟩ := sequencesEqual_eq_true.1 hsame
    unfold sequencesEqual at h ⊢
    rw [hlength]
    split at h
    · rename_i hsecond
      rw [if_pos hsecond]
      exact itemsEqual_congr laws hleft hmiddle hright hlength hitems h
    · rename_i hsecond
      rw [if_neg hsecond, h]

theorem itemsOrder_cons_of_true (h : equal a b = .ok true) :
    itemsOrder equal order (a :: left) (b :: right) = itemsOrder equal order left right := by
  simp [itemsOrder, h]

theorem itemsOrder_cons_of_false (h : equal a b = .ok false) :
    itemsOrder equal order (a :: left) (b :: right) = order a b := by
  simp [itemsOrder, h]

/-- An order of sequences was decided by the tails or by the heads. -/
theorem itemsOrder_cons_eq_ok {answer : Option Ordering}
    (h : itemsOrder equal order (a :: left) (b :: right) = .ok answer) :
    equal a b = .ok true ∧ itemsOrder equal order left right = .ok answer ∨
      equal a b = .ok false ∧ order a b = .ok answer := by
  unfold itemsOrder at h
  split at h
  · cases h
  · exact .inl ⟨‹_›, h⟩
  · exact .inr ⟨‹_›, h⟩

theorem itemsOrder_nil_cons : itemsOrder equal order [] (b :: right) = .ok (some .lt) := by
  simp [itemsOrder, Nat.compare_eq_lt]

theorem itemsOrder_cons_nil : itemsOrder equal order (a :: left) [] = .ok (some .gt) := by
  simp [itemsOrder, Nat.compare_eq_gt]

theorem itemsOrder_swap (equality : EqualityLaws P equal) (laws : OrderLaws P equal order)
    {answer : Option Ordering} (hleft : ∀ item ∈ left, P item) (hright : ∀ item ∈ right, P item)
    (h : itemsOrder equal order left right = .ok answer) :
    itemsOrder equal order right left = .ok (answer.map Ordering.swap) := by
  induction left generalizing right with
  | nil =>
      cases right with
      | nil =>
          cases h
          rfl
      | cons b right =>
          rw [itemsOrder_nil_cons] at h
          cases h
          exact itemsOrder_cons_nil
  | cons a left ih =>
      cases right with
      | nil =>
          rw [itemsOrder_cons_nil] at h
          cases h
          exact itemsOrder_nil_cons
      | cons b right =>
          obtain ⟨ha, hleft⟩ := List.forall_mem_cons.1 hleft
          obtain ⟨hb, hright⟩ := List.forall_mem_cons.1 hright
          rcases itemsOrder_cons_eq_ok h with ⟨hhead, htail⟩ | ⟨hhead, horder⟩
          · rw [equality.symm ha hb] at hhead
            rw [itemsOrder_cons_of_true hhead]
            exact ih hleft hright htail
          · rw [equality.symm ha hb] at hhead
            rw [itemsOrder_cons_of_false hhead]
            exact laws.swap ha hb horder

/-- Sequences that are ordered can also be compared for equality, though that looks at their lengths
first. -/
theorem itemsOrder_decides (laws : OrderLaws P equal order) {answer : Option Ordering}
    (hleft : ∀ item ∈ left, P item) (hright : ∀ item ∈ right, P item)
    (h : itemsOrder equal order left right = .ok answer) :
    ∃ found, answer = some found ∧ sequencesEqual equal left right = .ok (found = .eq) := by
  induction left generalizing right with
  | nil =>
      cases right with
      | nil =>
          cases h
          exact ⟨.eq, rfl, rfl⟩
      | cons b right =>
          rw [itemsOrder_nil_cons] at h
          cases h
          exact ⟨.lt, rfl, rfl⟩
  | cons a left ih =>
      cases right with
      | nil =>
          rw [itemsOrder_cons_nil] at h
          cases h
          exact ⟨.gt, rfl, rfl⟩
      | cons b right =>
          obtain ⟨ha, hleft⟩ := List.forall_mem_cons.1 hleft
          obtain ⟨hb, hright⟩ := List.forall_mem_cons.1 hright
          rcases itemsOrder_cons_eq_ok h with ⟨hhead, htail⟩ | ⟨hhead, horder⟩
          · obtain ⟨found, hfound, hequal⟩ := ih hleft hright htail
            refine ⟨found, hfound, ?_⟩
            unfold sequencesEqual at hequal ⊢
            simpa [itemsEqual_cons_of_true hhead] using hequal
          · obtain ⟨found, hfound, hequal⟩ := laws.decides ha hb horder
            have hdiffer : found ≠ .eq := by simpa [hhead] using hequal
            refine ⟨found, hfound, ?_⟩
            unfold sequencesEqual
            rw [itemsEqual_cons_of_ne (by simp [hhead]), hhead]
            simp [hdiffer]

theorem itemsOrder_cons_of_lt (laws : OrderLaws P equal order) (ha : P a) (hb : P b)
    (h : order a b = .ok (some .lt)) :
    itemsOrder equal order (a :: left) (b :: right) = .ok (some .lt) := by
  obtain ⟨found, hfound, hequal⟩ := laws.decides ha hb h
  cases hfound
  rw [itemsOrder_cons_of_false hequal, h]

/-- The first difference of the outer two sequences lies where that of one pair of neighbours does, so
it is decided by one of the two orders, or by both. -/
theorem itemsOrder_trans (equality : EqualityLaws P equal) (laws : OrderLaws P equal order)
    {middle : List Value} (hleft : ∀ item ∈ left, P item) (hmiddle : ∀ item ∈ middle, P item)
    (hright : ∀ item ∈ right, P item) (hfirst : itemsOrder equal order left middle = .ok (some .lt))
    (hsecond : itemsOrder equal order middle right = .ok (some .lt)) :
    itemsOrder equal order left right = .ok (some .lt) := by
  induction left generalizing middle right with
  | nil =>
      cases right with
      | nil =>
          cases middle with
          | nil => cases hfirst
          | cons b middle =>
              rw [itemsOrder_cons_nil] at hsecond
              cases hsecond
      | cons c right => exact itemsOrder_nil_cons
  | cons a left ih =>
      cases middle with
      | nil =>
          rw [itemsOrder_cons_nil] at hfirst
          cases hfirst
      | cons b middle =>
          cases right with
          | nil =>
              rw [itemsOrder_cons_nil] at hsecond
              cases hsecond
          | cons c right =>
              obtain ⟨ha, hleft⟩ := List.forall_mem_cons.1 hleft
              obtain ⟨hb, hmiddle⟩ := List.forall_mem_cons.1 hmiddle
              obtain ⟨hc, hright⟩ := List.forall_mem_cons.1 hright
              rcases itemsOrder_cons_eq_ok hfirst with ⟨hab, hfirst⟩ | ⟨-, hab⟩
              · rcases itemsOrder_cons_eq_ok hsecond with ⟨hbc, hsecond⟩ | ⟨-, hbc⟩
                · rw [itemsOrder_cons_of_true (equality.congr ha hb hc hab hbc)]
                  exact ih hleft hmiddle hright hfirst hsecond
                · exact itemsOrder_cons_of_lt laws ha hc (laws.congr ha hb hc hab hbc)
              · rcases itemsOrder_cons_eq_ok hsecond with ⟨hbc, -⟩ | ⟨-, hbc⟩
                · exact itemsOrder_cons_of_lt laws ha hc (laws.congr_right equality ha hb hc hbc hab)
                · exact itemsOrder_cons_of_lt laws ha hc (laws.trans ha hb hc hab hbc)

theorem itemsOrder_congr (equality : EqualityLaws P equal) (laws : OrderLaws P equal order)
    {middle : List Value} {answer : Option Ordering} (hleft : ∀ item ∈ left, P item)
    (hmiddle : ∀ item ∈ middle, P item) (hright : ∀ item ∈ right, P item)
    (hlength : left.length = middle.length) (hsame : itemsEqual equal left middle = .ok true)
    (h : itemsOrder equal order middle right = .ok answer) :
    itemsOrder equal order left right = .ok answer := by
  induction left generalizing middle right with
  | nil =>
      cases List.length_eq_zero_iff.1 hlength.symm
      exact h
  | cons a left ih =>
      cases middle with
      | nil => cases hlength
      | cons b middle =>
          cases right with
          | nil =>
              rw [itemsOrder_cons_nil] at h ⊢
              exact h
          | cons c right =>
              obtain ⟨ha, hleft⟩ := List.forall_mem_cons.1 hleft
              obtain ⟨hb, hmiddle⟩ := List.forall_mem_cons.1 hmiddle
              obtain ⟨hc, hright⟩ := List.forall_mem_cons.1 hright
              obtain ⟨hhead, htail⟩ := itemsEqual_cons_eq_true.1 hsame
              rcases itemsOrder_cons_eq_ok h with ⟨hbc, h⟩ | ⟨hbc, h⟩
              · rw [itemsOrder_cons_of_true (equality.congr ha hb hc hhead hbc)]
                exact ih hleft hmiddle hright (Nat.succ.inj hlength) htail h
              · rw [itemsOrder_cons_of_false (equality.congr ha hb hc hhead hbc)]
                exact laws.congr ha hb hc hhead h

theorem OrderLaws.sequences (equality : EqualityLaws P equal) (laws : OrderLaws P equal order) :
    OrderLaws (fun items => ∀ item ∈ items, P item) (sequencesEqual equal)
      (itemsOrder equal order) where
  swap hleft hright := itemsOrder_swap equality laws hleft hright
  decides hleft hright := itemsOrder_decides laws hleft hright
  trans hleft hmiddle hright := itemsOrder_trans equality laws hleft hmiddle hright
  congr hleft hmiddle hright hsame := by
    obtain ⟨hlength, hitems⟩ := sequencesEqual_eq_true.1 hsame
    exact itemsOrder_congr equality laws hleft hmiddle hright hlength hitems

end Sequences

/-- How two nodes that are not lists are ordered: numbers without a fraction by their value, strings
by their characters. -/
def Node.order? : Node → Node → Option Ordering
  | .number (.int x), .number (.int y) => some (compare x y)
  | .str s, .str t => some (compare s t)
  | _, _ => Option.none

namespace Node

variable {a b c : Node} {found : Ordering}

theorem order?_eq_some (h : a.order? b = some found) :
    (∃ x y, a = .number (.int x) ∧ b = .number (.int y) ∧ compare x y = found) ∨
      ∃ s t, a = .str s ∧ b = .str t ∧ compare s t = found := by
  unfold order? at h
  split at h
  · exact .inl ⟨_, _, rfl, rfl, Option.some.inj h⟩
  · exact .inr ⟨_, _, rfl, rfl, Option.some.inj h⟩
  · cases h

theorem order?_swap (h : a.order? b = some found) : b.order? a = some found.swap := by
  rcases order?_eq_some h with ⟨x, y, rfl, rfl, rfl⟩ | ⟨s, t, rfl, rfl, rfl⟩
  · exact congrArg some Std.OrientedCmp.eq_swap
  · exact congrArg some Std.OrientedCmp.eq_swap

theorem order?_eq_iff (h : a.order? b = some found) : found = .eq ↔ a = b := by
  rcases order?_eq_some h with ⟨x, y, rfl, rfl, rfl⟩ | ⟨s, t, rfl, rfl, rfl⟩ <;> simp

theorem order?_trans (hfirst : a.order? b = some .lt) (hsecond : b.order? c = some .lt) :
    a.order? c = some .lt := by
  rcases order?_eq_some hfirst with ⟨x, y, rfl, rfl, hxy⟩ | ⟨s, t, rfl, rfl, hst⟩
  · obtain ⟨_, z, hy, rfl, hyz⟩ | ⟨_, _, hy, -⟩ := order?_eq_some hsecond
    · cases hy
      exact congrArg some (Std.TransCmp.lt_trans hxy hyz)
    · cases hy
  · obtain ⟨_, _, ht, -⟩ | ⟨_, u, ht, rfl, htu⟩ := order?_eq_some hsecond
    · cases ht
    · cases ht
      exact congrArg some (Std.TransCmp.lt_trans hst htu)

theorem ne_list_of_order? (h : a.order? b = some found) : a ≠ .list ∧ b ≠ .list := by
  rcases order?_eq_some h with ⟨x, y, rfl, rfl, -⟩ | ⟨s, t, rfl, rfl, -⟩ <;> simp

end Node

namespace Value

variable {heap : Heap} {sign : String} {levels : Nat} {a b c : Value} {i j : ListId}

/-- Values that are not both lists are ordered by what they show. -/
theorem orderWithin_of_not_lists (ha : a.FloatFree heap) (hb : b.FloatFree heap)
    (h : ¬(a.node = .list ∧ b.node = .list)) {answer : Option Ordering} :
    orderWithin heap sign levels a b = .ok answer ↔
      ∃ found, answer = some found ∧ a.node.order? b.node = some found := by
  have ha := ha.ne_float
  have hb := hb.ne_float
  cases a <;> cases b <;> unfold orderWithin <;>
    simp_all [numeric?, node, Numeric.order?, Node.order?, eq_comm]

/-- A list is ordered with nothing but lists. -/
theorem node_eq_list_iff_of_order (ha : a.FloatFree heap) (hb : b.FloatFree heap)
    {answer : Option Ordering} (h : orderWithin heap sign levels a b = .ok answer) :
    a.node = .list ↔ b.node = .list := by
  by_cases hlists : a.node = .list ∧ b.node = .list
  · exact iff_of_true hlists.1 hlists.2
  · obtain ⟨found, -, hfound⟩ := (orderWithin_of_not_lists ha hb hlists).1 h
    exact iff_of_false (Node.ne_list_of_order? hfound).1 (Node.ne_list_of_order? hfound).2

/-- Equal values are both lists, or neither is one and they show the same. -/
theorem lists_or_node_eq (ha : a.FloatFree heap) (hb : b.FloatFree heap)
    (h : equalsWithin heap levels a b = .ok true) :
    (∃ i j, a = .list i ∧ b = .list j) ∨ a.node ≠ .list ∧ a.node = b.node := by
  by_cases hlists : a.node = .list ∧ b.node = .list
  · obtain ⟨⟨i, rfl⟩, ⟨j, rfl⟩⟩ := hlists.imp node_eq_list.1 node_eq_list.1
    exact .inl ⟨i, j, rfl, rfl⟩
  · rw [equalsWithin_of_not_lists ha hb hlists] at h
    have hnode : a.node = b.node := by simpa using h
    exact .inr ⟨fun hlist => hlists ⟨hlist, hnode ▸ hlist⟩, hnode⟩

/-- The short cut for one and the same list gives what its items would give. -/
theorem equalsWithin_succ_eq_sequences (laws : EqualityLaws (FloatFree heap) (equalsWithin heap levels))
    (hi : (Value.list i).FloatFree heap) :
    equalsWithin heap (levels + 1) (.list i) (.list j) =
      sequencesEqual (equalsWithin heap levels) (heap.items i).toList (heap.items j).toList := by
  by_cases h : i = j
  · subst h
    rw [equalsWithin_self_list]
    exact (laws.sequences.refl hi.item).symm
  · rw [equalsWithin_succ_lists h]
    rfl

/-- The laws for lists are the laws for all values, since the others compare by what they show. -/
theorem equalityLaws_of_lists
    (laws : EqualityLaws (fun id => FloatFree heap (.list id))
      fun i j => equalsWithin heap levels (.list i) (.list j)) :
    EqualityLaws (FloatFree heap) (equalsWithin heap levels) where
  refl {a} ha := by
    by_cases hlist : a.node = .list
    · obtain ⟨i, rfl⟩ := node_eq_list.1 hlist
      exact laws.refl ha
    · rw [equalsWithin_of_not_lists ha ha fun h => hlist h.1]
      simp
  symm {a b} ha hb := by
    by_cases hlists : a.node = .list ∧ b.node = .list
    · obtain ⟨⟨i, rfl⟩, ⟨j, rfl⟩⟩ := hlists.imp node_eq_list.1 node_eq_list.1
      exact laws.symm ha hb
    · rw [equalsWithin_of_not_lists ha hb hlists, equalsWithin_of_not_lists hb ha (hlists ∘ And.symm)]
      simp [eq_comm]
  congr {a b c answer} ha hb hc hsame h := by
    rcases lists_or_node_eq ha hb hsame with ⟨i, j, rfl, rfl⟩ | ⟨hnone, hnode⟩
    · by_cases hlist : c.node = .list
      · obtain ⟨k, rfl⟩ := node_eq_list.1 hlist
        exact laws.congr ha hb hc hsame h
      · rw [equalsWithin_of_not_lists hb hc fun h => hlist h.2] at h
        rw [equalsWithin_of_not_lists ha hc fun h => hlist h.2]
        exact h
    · rw [equalsWithin_of_not_lists hb hc fun h => hnone (hnode ▸ h.1)] at h
      rw [equalsWithin_of_not_lists ha hc fun h => hnone h.1, ← h, hnode]

/-- Equality obeys its laws at every depth: where it follows no list, two lists are equal only if
they are one. -/
theorem equalityLaws (heap : Heap) (levels : Nat) :
    EqualityLaws (FloatFree heap) (equalsWithin heap levels) := by
  induction levels with
  | zero =>
      apply equalityLaws_of_lists
      have hone {i j : ListId} {answer : Bool}
          (h : equalsWithin heap 0 (.list i) (.list j) = .ok answer) : i = j := by
        by_contra hne
        rw [equalsWithin_zero_lists hne] at h
        cases h
      refine ⟨fun _ => equalsWithin_self_list 0 _, fun {i j} _ _ => ?_, fun _ _ _ hsame h => ?_⟩
      · by_cases h : i = j
        · rw [h]
        · rw [equalsWithin_zero_lists h, equalsWithin_zero_lists (Ne.symm h)]
      · cases hone hsame
        exact h
  | succ levels ih =>
      apply equalityLaws_of_lists
      have hlaws := ih.sequences.comap (f := fun id => (heap.items id).toList)
        (Q := fun id => FloatFree heap (.list id)) FloatFree.item
      refine ⟨fun hi => ?_, fun hi hj => ?_, fun hi hj hk => ?_⟩
      · rw [equalsWithin_succ_eq_sequences ih hi]
        exact hlaws.refl hi
      · rw [equalsWithin_succ_eq_sequences ih hi, equalsWithin_succ_eq_sequences ih hj]
        exact hlaws.symm hi hj
      · rw [equalsWithin_succ_eq_sequences ih hi, equalsWithin_succ_eq_sequences ih hj,
          equalsWithin_succ_eq_sequences ih hi]
        exact hlaws.congr hi hj hk

theorem orderLaws_of_lists
    (laws : OrderLaws (fun id => FloatFree heap (.list id))
      (fun i j => equalsWithin heap levels (.list i) (.list j))
      fun i j => orderWithin heap sign levels (.list i) (.list j)) :
    OrderLaws (FloatFree heap) (equalsWithin heap levels) (orderWithin heap sign levels) where
  swap {a b answer} ha hb h := by
    by_cases hlists : a.node = .list ∧ b.node = .list
    · obtain ⟨⟨i, rfl⟩, ⟨j, rfl⟩⟩ := hlists.imp node_eq_list.1 node_eq_list.1
      exact laws.swap ha hb h
    · obtain ⟨found, rfl, hfound⟩ := (orderWithin_of_not_lists ha hb hlists).1 h
      exact (orderWithin_of_not_lists hb ha (hlists ∘ And.symm)).2
        ⟨found.swap, rfl, Node.order?_swap hfound⟩
  decides {a b answer} ha hb h := by
    by_cases hlists : a.node = .list ∧ b.node = .list
    · obtain ⟨⟨i, rfl⟩, ⟨j, rfl⟩⟩ := hlists.imp node_eq_list.1 node_eq_list.1
      exact laws.decides ha hb h
    · obtain ⟨found, rfl, hfound⟩ := (orderWithin_of_not_lists ha hb hlists).1 h
      refine ⟨found, rfl, ?_⟩
      rw [equalsWithin_of_not_lists ha hb hlists]
      simp only [Node.order?_eq_iff hfound]
  trans {a b c} ha hb hc hfirst hsecond := by
    by_cases hlist : b.node = .list
    · obtain ⟨i, rfl⟩ := node_eq_list.1 ((node_eq_list_iff_of_order ha hb hfirst).2 hlist)
      obtain ⟨k, rfl⟩ := node_eq_list.1 ((node_eq_list_iff_of_order hb hc hsecond).1 hlist)
      obtain ⟨j, rfl⟩ := node_eq_list.1 hlist
      exact laws.trans ha hb hc hfirst hsecond
    · obtain ⟨_, ⟨⟩, hab⟩ := (orderWithin_of_not_lists ha hb fun h => hlist h.2).1 hfirst
      obtain ⟨_, ⟨⟩, hbc⟩ := (orderWithin_of_not_lists hb hc fun h => hlist h.1).1 hsecond
      have hac := Node.order?_trans hab hbc
      exact (orderWithin_of_not_lists ha hc fun h => (Node.ne_list_of_order? hac).1 h.1).2
        ⟨.lt, rfl, hac⟩
  congr {a b c answer} ha hb hc hsame h := by
    rcases lists_or_node_eq ha hb hsame with ⟨i, j, rfl, rfl⟩ | ⟨hnone, hnode⟩
    · obtain ⟨k, rfl⟩ := node_eq_list.1 ((node_eq_list_iff_of_order hb hc h).1 rfl)
      exact laws.congr ha hb hc hsame h
    · have hfound := (orderWithin_of_not_lists hb hc fun h => hnone (hnode ▸ h.1)).1 h
      rw [← hnode] at hfound
      exact (orderWithin_of_not_lists ha hc fun h => hnone h.1).2 hfound

/-- Order obeys its laws at every depth. It has no short cut, but what it decides equality decides
too. -/
theorem orderLaws (heap : Heap) (sign : String) (levels : Nat) :
    OrderLaws (FloatFree heap) (equalsWithin heap levels) (orderWithin heap sign levels) := by
  induction levels with
  | zero =>
      apply orderLaws_of_lists
      have hnone {i j : ListId} {answer : Option Ordering}
          (h : orderWithin heap sign 0 (.list i) (.list j) = .ok answer) : False := by
        cases h
      exact ⟨fun _ _ h => (hnone h).elim, fun _ _ h => (hnone h).elim,
        fun _ _ _ h _ => (hnone h).elim, fun _ _ _ _ h => (hnone h).elim⟩
  | succ levels ih =>
      apply orderLaws_of_lists
      have hequality := equalityLaws heap levels
      have hlaws := (ih.sequences hequality).comap (f := fun id => (heap.items id).toList)
        (Q := fun id => FloatFree heap (.list id)) FloatFree.item
      refine ⟨hlaws.swap, fun hi hj h => ?_, hlaws.trans, fun hi hj hk hsame h => ?_⟩
      · rw [equalsWithin_succ_eq_sequences hequality hi]
        exact hlaws.decides hi hj h
      · rw [equalsWithin_succ_eq_sequences hequality hi] at hsame
        exact hlaws.congr hi hj hk hsame h

/-- Equality and order of values without floats are coherent, in any heap and for any sign. -/
theorem equals_order_coherent (sign : String) (ha : a.FloatFree heap) (hb : b.FloatFree heap)
    (hc : c.FloatFree heap) :
    a.equals heap b = b.equals heap a ∧ a.equals heap a = .ok true ∧
    (a.equals heap b = .ok true → b.equals heap c = .ok true → a.equals heap c = .ok true) ∧
    (∀ answer, a.order heap sign b = .ok answer →
      b.order heap sign a = .ok (answer.map Ordering.swap) ∧
      (answer = some .eq ↔ a.equals heap b = .ok true) ∧ answer ≠ Option.none) ∧
    (a.order heap sign b = .ok (some .lt) → b.order heap sign c = .ok (some .lt) →
      a.order heap sign c = .ok (some .lt)) ∧
    ∀ answer, a.equals heap b = .ok true →
      (a.order heap sign c = .ok answer ↔ b.order heap sign c = .ok answer) ∧
      (c.order heap sign a = .ok answer ↔ c.order heap sign b = .ok answer) := by
  have equality := equalityLaws heap maxCompareDepth
  have laws := orderLaws heap sign maxCompareDepth
  refine ⟨equality.symm ha hb, equality.refl ha, equality.congr ha hb hc, ?_,
    laws.trans ha hb hc, ?_⟩
  · intro answer h
    refine ⟨laws.swap ha hb h, ?_⟩
    obtain ⟨found, rfl, hequal⟩ := laws.decides ha hb h
    rw [show a.equals heap b = _ from hequal]
    simp
  · intro answer hsame
    have hback : b.equals heap a = .ok true := (equality.symm hb ha).trans hsame
    exact ⟨⟨laws.congr hb ha hc hback, laws.congr ha hb hc hsame⟩,
      ⟨laws.congr_right equality hc ha hb hsame, laws.congr_right equality hc hb ha hback⟩⟩

/-- With `x = [x, 1]`, the lists `x`, `[x, True]` and `[x, 2]`: the second takes the place of the first
before the third. -/
theorem equals_order_coherent_of_cycle :
    let heap : Heap := ⟨#[#[.list 0, .int 1], #[.list 0, .bool true], #[.list 0, .int 2]]⟩
    (∀ id, (Value.list id).FloatFree heap) ∧ (Value.list 0).equals heap (.list 1) = .ok true ∧
      (Value.list 0).order heap "<" (.list 2) = .ok (some .lt) ∧
      (Value.list 1).order heap "<" (.list 2) = .ok (some .lt) := by
  intro heap
  have hfree (id : ListId) : (Value.list id).FloatFree heap :=
    floatFree_of_heap (by simp [heap]) (by simp)
  have hcoherent := equals_order_coherent "<" (hfree 0) (hfree 1) (hfree 2)
  exact ⟨hfree, rfl, rfl, (hcoherent.2.2.2.2.2 _ rfl).1.1 rfl⟩

end Value

end Roundtable.Script
