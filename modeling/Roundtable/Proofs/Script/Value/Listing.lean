import Mathlib.Data.Set.Card
import Mathlib.Data.Set.Finite.Lattice
import Roundtable.Proofs.Script.Pairing.Values
import Roundtable.Proofs.Script.Value.Data
import Roundtable.Proofs.Script.Value.Unfolding
/-!
The text of values as a depth-first listing. The lists of a heap can lead back to themselves, so the
printer keeps the open ones on a stack and does not open a list twice. Here it is written as one
procedure that works on one text and one stack, with a bound on how deep it calls itself: it never
needs more than one call beyond the lists that it can reach, and it leaves the stack as it was. What
it prints is told by paths from the root: a list is shown as `[...]` where it already stands above
itself, and nowhere else.
-/

namespace Roundtable.Script

namespace Value

/-! ### The lists that are reached -/

section Reachable

variable {heap : Heap} {value item : Value} {id : ListId} {opened : List ListId}

theorem finite_listed (items : List Value) : {id | Value.list id ∈ items}.Finite :=
  items.finite_toSet.preimage fun _ _ _ _ hsame => Value.list.inj hsame

/-- A list that is reached is the value itself, or an item of a list in the heap. -/
theorem reachable_subset (heap : Heap) (value : Value) : value.reachable heap ⊆
    {id | value = .list id} ∪ ⋃ outer ∈ Finset.range heap.lists.size,
      {id | Value.list id ∈ (heap.items outer).toList} := by
  intro id hid
  rcases Relation.ReflTransGen.cases_tail hid with hsame | ⟨holder, -, hholds⟩
  · exact .inl hsame.symm
  · cases holder with
    | list outer =>
        have hknown : outer < heap.lists.size := by
          by_contra hnew
          have hheld : Value.list id ∈ (heap.items outer).toList := hholds
          rw [heap.items_eq_empty hnew] at hheld
          cases hheld
        exact .inr (Set.mem_biUnion (Finset.mem_range.2 hknown) hholds)
    | _ => cases hholds

theorem reachable_finite (heap : Heap) (value : Value) : (value.reachable heap).Finite := by
  have hself : {id | value = .list id}.Finite :=
    Set.Subsingleton.finite fun i hi j hj => Value.list.inj (hi.symm.trans hj)
  have hitems : (⋃ outer ∈ Finset.range heap.lists.size,
      {id | Value.list id ∈ (heap.items outer).toList}).Finite :=
    Set.Finite.biUnion (Finset.finite_toSet _) fun outer _ => finite_listed _
  exact (hself.union hitems).subset (reachable_subset heap value)

theorem reachable_item (hitem : (Value.list id).HasItem heap item) :
    item.reachable heap ⊆ (Value.list id).reachable heap :=
  fun _ hinner => Relation.ReflTransGen.head hitem hinner

theorem mem_reachable_self (heap : Heap) (id : ListId) : id ∈ (Value.list id).reachable heap :=
  Relation.ReflTransGen.refl

/-- The items of a list that is opened reach fewer lists that are not open. -/
theorem ncard_unopened_lt (hitem : (Value.list id).HasItem heap item) (hclosed : id ∉ opened) :
    (item.reachable heap \ {other | other ∈ id :: opened}).ncard <
      ((Value.list id).reachable heap \ {other | other ∈ opened}).ncard := by
  refine Set.ncard_lt_ncard ⟨fun other hother => ?_, fun hsubset => ?_⟩
    ((reachable_finite heap _).subset Set.sdiff_subset)
  · exact ⟨reachable_item hitem hother.1, fun hopen => hother.2 (List.mem_cons_of_mem id hopen)⟩
  · exact (hsubset ⟨mem_reachable_self heap id, hclosed⟩).2 List.mem_cons_self

theorem ncard_reachable_lt (hitem : (Value.list id).HasItem heap item)
    (hacyclic : (Value.list id).Acyclic heap) :
    (item.reachable heap).ncard < ((Value.list id).reachable heap).ncard := by
  refine Set.ncard_lt_ncard ⟨reachable_item hitem, fun hsubset => ?_⟩ (reachable_finite heap _)
  have hback : Relation.ReflTransGen (HasItem heap) item (.list id) :=
    hsubset (mem_reachable_self heap id)
  exact hacyclic (.list id) .refl (.head' hitem hback)

end Reachable

/-! ### The printer as a procedure -/

end Value

/-- What the printer works on: the text that it has written, and the open lists, the innermost
first. -/
structure Printing where
  out : String
  seen : List ListId

def Printing.emit (printing : Printing) (text : String) : Printing :=
  { printing with out := printing.out ++ text }

/-- Writes items one after another, with commas between them. -/
def writeItems (write : Value → Printing → Option Printing) :
    List Value → Printing → Option Printing
  | [], printing => some printing
  | [item], printing => write item printing
  | item :: next :: rest, printing => do
    let printing ← write item printing
    writeItems write (next :: rest) (printing.emit ", ")

namespace Value

/-- Writes the text of a value, opening each list that is not open yet and closing whichever is the
innermost afterwards. There is no result if it takes more calls inside each other than allowed. -/
def writeRepr (room : Room) (heap : Heap) : Nat → Value → Printing → Option Printing
  | 0, _, _ => Option.none
  | calls + 1, .list id, ⟨out, seen⟩ =>
    if id ∈ seen then some ⟨out ++ "[...]", seen⟩
    else do
      let ⟨out, seen⟩ ← writeItems (writeRepr room heap calls) (heap.items id).toList
        ⟨out ++ "[", id :: seen⟩
      return ⟨out ++ "]", seen.tail⟩
  | _ + 1, value, printing => some (printing.emit (value.repr room heap))

/-- The plain recursive printer, which opens a list wherever it meets one. -/
def plainRepr (room : Room) (heap : Heap) : Nat → Value → Option String
  | 0, _ => Option.none
  | calls + 1, .list id => bracketed <$> (heap.items id).toList.mapM (plainRepr room heap calls)
  | _ + 1, value => some (value.repr room heap)

section Procedures

variable {room : Room} {heap : Heap} {value : Value} {opened : List ListId}

theorem writeItems_eq {write : Value → Printing → Option Printing} {text : Value → String}
    {items : List Value} (hwrite : ∀ item ∈ items, ∀ out,
      write item ⟨out, opened⟩ = some ⟨out ++ text item, opened⟩) (out : String) :
    writeItems write items ⟨out, opened⟩ =
      some ⟨out ++ ", ".intercalate (items.map text), opened⟩ := by
  induction items generalizing out with
  | nil => simp [writeItems]
  | cons item rest ih =>
      obtain ⟨hitem, hrest⟩ := List.forall_mem_cons.1 hwrite
      cases rest with
      | nil => simpa [writeItems] using hitem out
      | cons next rest =>
          have htail := ih hrest (out ++ text item ++ ", ")
          rw [List.map_cons, List.map_cons, String.intercalate_cons_cons]
          unfold writeItems
          rw [hitem out]
          simpa [Printing.emit, String.append_assoc] using htail

/-- What is no list has the same text whichever lists are open. -/
theorem repr_of_ne_list (h : ∀ id, value ≠ .list id) :
    value.repr room heap = value.reprWithin room heap opened :=
  reprWithin_eq_of_ne_list ⟨rfl, rfl⟩ h

theorem writeRepr_of_ne_list {calls : Nat} (h : ∀ id, value ≠ .list id) (printing : Printing) :
    value.writeRepr room heap (calls + 1) printing =
      some (printing.emit (value.repr room heap)) := by
  cases value with
  | list id => exact absurd rfl (h id)
  | _ => rfl

theorem plainRepr_of_ne_list {calls : Nat} (h : ∀ id, value ≠ .list id) :
    value.plainRepr room heap (calls + 1) = some (value.repr room heap) := by
  cases value with
  | list id => exact absurd rfl (h id)
  | _ => rfl

/-- One call more than there are lists to open is enough, and the stack is left as it was. The
induction is on the calls: each list that is opened is one list less for its items. -/
theorem writeRepr_eq {calls : Nat}
    (hcalls : (value.reachable heap \ {id | id ∈ opened}).ncard < calls) (out : String) :
    value.writeRepr room heap calls ⟨out, opened⟩ =
      some ⟨out ++ value.reprWithin room heap opened, opened⟩ := by
  induction calls generalizing value opened out with
  | zero => exact absurd hcalls (Nat.not_lt_zero _)
  | succ calls ih =>
      obtain ⟨id, rfl⟩ | hother := value.eq_list_or
      · unfold writeRepr
        by_cases hopen : id ∈ opened
        · rw [if_pos hopen, reprWithin_of_mem room heap hopen]
        · have hitem : ∀ item ∈ (heap.items id).toList, ∀ out,
              item.writeRepr room heap calls ⟨out, id :: opened⟩ =
                some ⟨out ++ item.reprWithin room heap (id :: opened), id :: opened⟩ := by
            intro item hitem
            have hfewer := ncard_unopened_lt hitem hopen
            exact ih (by omega)
          have hitems := writeItems_eq hitem (out ++ "[")
          rw [if_neg hopen, reprWithin_of_not_mem room heap hopen, hitems]
          simp [bracketed, String.append_assoc]
      · rw [writeRepr_of_ne_list hother, repr_of_ne_list hother]
        rfl

theorem mapM_eq_some_map {α β : Type} {f : α → Option β} {g : α → β} {items : List α}
    (h : ∀ item ∈ items, f item = some (g item)) : items.mapM f = some (items.map g) := by
  induction items with
  | nil => rfl
  | cons item items ih =>
      obtain ⟨hitem, hitems⟩ := List.forall_mem_cons.1 h
      simp [List.mapM_cons, hitem, ih hitems]

/-- Where no list contains itself none is met again while it is open: the open ones all lead to the
value. -/
theorem plainRepr_eq {calls : Nat} (hcalls : (value.reachable heap).ncard < calls)
    (hacyclic : value.Acyclic heap)
    (hopened : ∀ outer ∈ opened, Relation.TransGen (HasItem heap) (.list outer) value) :
    value.plainRepr room heap calls = some (value.reprWithin room heap opened) := by
  induction calls generalizing value opened with
  | zero => exact absurd hcalls (Nat.not_lt_zero _)
  | succ calls ih =>
      obtain ⟨id, rfl⟩ | hother := value.eq_list_or
      · have hitems : ∀ item ∈ (heap.items id).toList, item.plainRepr room heap calls =
            some (item.reprWithin room heap (id :: opened)) := by
          intro item hitem
          have hfewer := ncard_reachable_lt hitem hacyclic
          exact ih (by omega) (hacyclic.inner hitem) (transGen_item hopened hitem)
        unfold plainRepr
        rw [mapM_eq_some_map hitems, reprWithin_of_not_mem room heap (hacyclic.not_mem hopened)]
        rfl
      · rw [plainRepr_of_ne_list hother, repr_of_ne_list hother]

end Procedures

/-! ### The listing, told by paths -/

/-- What is met at the end of a path through the items of lists. -/
def at? (heap : Heap) : Value → List Nat → Option Value
  | value, [] => some value
  | value, position :: path => (value.child? heap position).bind fun item => item.at? heap path

/-- A list is open at the end of a path if it is met on the way, before the end. -/
def OpenAbove (heap : Heap) (root : Value) (path : List Nat) (id : ListId) : Prop :=
  ∃ above, above <+: path ∧ above ≠ path ∧ root.at? heap above = some (.list id)

section Paths

variable {heap : Heap} {value met : Value} {path : List Nat}

theorem at?_append (first second : List Nat) :
    value.at? heap (first ++ second) = (value.at? heap first).bind (at? heap · second) := by
  induction first generalizing value with
  | nil => rfl
  | cons position first ih =>
      show (value.child? heap position).bind (at? heap · (first ++ second)) = _
      rw [at?, Option.bind_assoc]
      exact congrArg _ (funext fun _ => ih)

theorem hasItem_of_child? {position : Nat} {item : Value}
    (h : value.child? heap position = some item) : value.HasItem heap item := by
  cases value with
  | list id => exact Array.mem_toList_iff.2 (Array.mem_of_getElem? h)
  | _ => cases h

theorem reaches_of_at? (h : value.at? heap path = some met) :
    Relation.ReflTransGen (HasItem heap) value met := by
  induction path generalizing value with
  | nil =>
      cases h
      exact .refl
  | cons position path ih =>
      obtain ⟨item, hitem, hrest⟩ := Option.bind_eq_some_iff.1 h
      exact .head (hasItem_of_child? hitem) (ih hrest)

/-- A list that is open above itself is reached from itself. -/
theorem transGen_of_openAbove {id : ListId} (h : value.at? heap path = some (.list id))
    (habove : OpenAbove heap value path id) :
    Relation.ReflTransGen (HasItem heap) value (.list id) ∧
      Relation.TransGen (HasItem heap) (.list id) (.list id) := by
  obtain ⟨above, ⟨below, rfl⟩, hproper, hmet⟩ := habove
  refine ⟨reaches_of_at? hmet, ?_⟩
  rw [at?_append, hmet, Option.bind_some] at h
  cases below with
  | nil => exact absurd (List.append_nil above).symm hproper
  | cons position below =>
      obtain ⟨item, hitem, hrest⟩ := Option.bind_eq_some_iff.1 h
      exact .head' (hasItem_of_child? hitem) (reaches_of_at? hrest)

end Paths

end Value

/-- A listing as a tree: what is printed where a value is met. -/
inductive Listing where
  /-- A value that is no list, with its own text. -/
  | leaf (value : Value)
  /-- A list that is not opened again. -/
  | again
  | list (items : List Listing)

namespace Listing

/-- The text of a listing, depth first. -/
def text (room : Room) (heap : Heap) : Listing → String
  | .leaf value => value.repr room heap
  | .again => "[...]"
  | .list items => bracketed (items.map fun item => item.text room heap)

/-- The part of a listing at the end of a path. -/
def at? : Listing → List Nat → Option Listing
  | listing, [] => some listing
  | .list items, position :: path => items[position]?.bind fun item => item.at? path
  | _, _ :: _ => none

/-- What is printed where a value is met, if these lists are open there. A list that is open is not
opened again, and another one is listed with all its items. -/
inductive Shows (heap : Heap) (isOpen : ListId → Prop) : Value → Listing → Prop where
  | leaf {value : Value} : (∀ id, value ≠ .list id) → Shows heap isOpen value (.leaf value)
  | again {id : ListId} : isOpen id → Shows heap isOpen (.list id) .again
  | list {id : ListId} {items : List Listing} : ¬isOpen id →
      items.length = (heap.items id).size → Shows heap isOpen (.list id) (.list items)

/-- Each part of the listing shows what is met on the same path from the root, where the lists above
it are open. -/
def Depicts (heap : Heap) (root : Value) (listing : Listing) : Prop :=
  ∀ path part, listing.at? path = some part →
    ∃ met, root.at? heap path = some met ∧ Shows heap (Value.OpenAbove heap root path) met part

section Paths

variable {heap : Heap} {item : Value} {id other : ListId} {position : Nat} {path : List Nat}

theorem not_openAbove_nil {root : Value} : ¬Value.OpenAbove heap root [] other := by
  rintro ⟨above, hprefix, hproper, -⟩
  exact hproper (List.prefix_nil.1 hprefix)

theorem at?_cons (hitem : (heap.items id)[position]? = some item) (path : List Nat) :
    (Value.list id).at? heap (position :: path) = item.at? heap path := by
  show ((heap.items id)[position]?).bind _ = _
  rw [hitem]
  rfl

/-- Above an item of a list there is the list, and what is above the item within it. -/
theorem openAbove_cons (hitem : (heap.items id)[position]? = some item) :
    Value.OpenAbove heap (.list id) (position :: path) other ↔
      other = id ∨ Value.OpenAbove heap item path other := by
  constructor
  · rintro ⟨above, hprefix, hproper, hmet⟩
    cases above with
    | nil =>
        cases hmet
        exact .inl rfl
    | cons first above =>
        obtain ⟨rfl, hrest⟩ := List.cons_prefix_cons.1 hprefix
        rw [at?_cons hitem] at hmet
        exact .inr ⟨above, hrest, fun heq => hproper (heq ▸ rfl), hmet⟩
  · rintro (rfl | ⟨above, hprefix, hproper, hmet⟩)
    · exact ⟨[], List.nil_prefix, nofun, rfl⟩
    · refine ⟨position :: above, List.cons_prefix_cons.2 ⟨rfl, hprefix⟩, by simpa using hproper, ?_⟩
      rw [at?_cons hitem]
      exact hmet

theorem Shows.congr {isOpen isOpen' : ListId → Prop} {value : Value} {listing : Listing}
    (h : Shows heap isOpen value listing) (hopen : ∀ id, isOpen id ↔ isOpen' id) :
    Shows heap isOpen' value listing := by
  obtain rfl : isOpen = isOpen' := funext fun id => propext (hopen id)
  exact h

end Paths

variable {room : Room} {heap : Heap}

/-- The listing is that of a value that is printed while these lists are open. -/
def IsOf (room : Room) (heap : Heap) (opened : List ListId) (value : Value) (listing : Listing) :
    Prop :=
  value.reprWithin room heap opened = listing.text room heap ∧
    ∀ path part, listing.at? path = some part → ∃ met, value.at? heap path = some met ∧
      Shows heap (fun id => id ∈ opened ∨ Value.OpenAbove heap value path id) met part

theorem isOf_again {opened : List ListId} {id : ListId} (hopen : id ∈ opened) :
    IsOf room heap opened (.list id) .again := by
  refine ⟨?_, fun path part hpart => ?_⟩
  · rw [Value.reprWithin_of_mem room heap hopen, text]
  · cases path with
    | nil =>
        cases hpart
        exact ⟨.list id, rfl, .again (.inl hopen)⟩
    | cons => cases hpart

theorem isOf_leaf (opened : List ListId) {value : Value} (hother : ∀ id, value ≠ .list id) :
    IsOf room heap opened value (.leaf value) := by
  refine ⟨?_, fun path part hpart => ?_⟩
  · rw [text, Value.repr_of_ne_list hother]
  · cases path with
    | nil =>
        cases hpart
        exact ⟨value, rfl, .leaf hother⟩
    | cons => cases hpart

/-- The listings of the items are listings of what is below the list, which is open for them. -/
theorem isOf_list {opened : List ListId} {id : ListId} {items : List Listing}
    (hclosed : id ∉ opened)
    (hitems : List.Forall₂ (IsOf room heap (id :: opened)) (heap.items id).toList items) :
    IsOf room heap opened (.list id) (.list items) := by
  refine ⟨?_, fun path part hpart => ?_⟩
  · rw [Value.reprWithin_of_not_mem room heap hclosed, text]
    exact congrArg bracketed (map_eq_map_of_forall₂ hitems fun _ _ hitem => hitem.1)
  · cases path with
    | nil =>
        cases hpart
        refine ⟨.list id, rfl, .list ?_ hitems.length_eq.symm⟩
        rintro (hopen | habove)
        · exact hclosed hopen
        · exact not_openAbove_nil habove
    | cons position path =>
        obtain ⟨inner, hinner, hpart⟩ := Option.bind_eq_some_iff.1 hpart
        have hpair := getElem?_of_forall₂ hitems position
        rw [hinner, Array.getElem?_toList] at hpair
        generalize hitem : (heap.items id)[position]? = found at hpair
        cases hpair with
        | @some item _ hof =>
            obtain ⟨met, hmet, hshows⟩ := hof.2 path part hpart
            refine ⟨met, (at?_cons hitem path).trans hmet, hshows.congr fun other => ?_⟩
            rw [openAbove_cons hitem, List.mem_cons, or_assoc, or_left_comm]

/-- The induction is on the lists that are not open: each list that is listed with its items is one
of them. -/
theorem exists_isOf (room : Room) (heap : Heap) (opened : List ListId) (value : Value) :
    ∃ listing, IsOf room heap opened value listing := by
  obtain ⟨id, rfl⟩ | hother := value.eq_list_or
  · by_cases hopen : id ∈ opened
    · exact ⟨.again, isOf_again hopen⟩
    · have hitems : ∃ items, List.Forall₂ (IsOf room heap (id :: opened))
          (heap.items id).toList items := by
        by_cases hknown : id < heap.lists.size
        · exact exists_forall₂_iff.2 fun item _ => exists_isOf room heap (id :: opened) item
        · rw [heap.items_eq_empty hknown]
          exact ⟨[], .nil⟩
      obtain ⟨items, hitems⟩ := hitems
      exact ⟨.list items, isOf_list hopen hitems⟩
  · exact ⟨.leaf value, isOf_leaf opened hother⟩
termination_by heap.unopened opened
decreasing_by exact heap.unopened_lt hknown hopen

theorem exists_depicts (room : Room) (heap : Heap) (value : Value) :
    ∃ listing : Listing, listing.Depicts heap value ∧
      value.repr room heap = listing.text room heap := by
  obtain ⟨listing, htext, hshows⟩ := exists_isOf room heap [] value
  refine ⟨listing, fun path part hpart => ?_, htext⟩
  obtain ⟨met, hmet, hpart⟩ := hshows path part hpart
  exact ⟨met, hmet, hpart.congr fun id => by simp⟩

theorem Depicts.ne_again {listing : Listing} {value : Value} (h : listing.Depicts heap value)
    (hacyclic : value.Acyclic heap) (path : List Nat) : listing.at? path ≠ some .again := by
  intro hagain
  obtain ⟨met, hmet, hshows⟩ := h path .again hagain
  cases hshows with
  | again habove =>
      obtain ⟨hreached, hcycle⟩ := Value.transGen_of_openAbove hmet habove
      exact hacyclic _ hreached hcycle

end Listing

/-- Printing a value ends with at most one call inside each other more than there are lists to reach,
and leaves the stack of open lists as it found it. What is printed is the depth-first listing in which
a list is shown as `[...]` where it is open on the path to it, and only there; so a value without a
list that contains itself is printed as by the plain recursive printer, wherever it shares lists. -/
theorem repr_listing (room : Room) (heap : Heap) (value : Value) :
    (value.reachable heap).Finite ∧
    (∀ out opened, value.writeRepr room heap ((value.reachable heap).ncard + 1) ⟨out, opened⟩ =
      some ⟨out ++ value.reprWithin room heap opened, opened⟩) ∧
    (∃ listing : Listing, listing.Depicts heap value ∧
      value.repr room heap = listing.text room heap ∧
      (value.Acyclic heap → ∀ path, listing.at? path ≠ some .again)) ∧
    (value.Acyclic heap →
      value.plainRepr room heap ((value.reachable heap).ncard + 1) =
        some (value.repr room heap)) := by
  refine ⟨Value.reachable_finite heap value, fun out opened => ?_, ?_, fun hacyclic => ?_⟩
  · refine Value.writeRepr_eq (Nat.lt_succ_of_le ?_) out
    exact Set.ncard_le_ncard Set.sdiff_subset (Value.reachable_finite heap value)
  · obtain ⟨listing, hdepicts, htext⟩ := Listing.exists_depicts room heap value
    exact ⟨listing, hdepicts, htext, hdepicts.ne_again⟩
  · exact Value.plainRepr_eq (Nat.lt_succ_self _) hacyclic (by simp)

end Roundtable.Script
