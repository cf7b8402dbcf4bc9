import Mathlib.Data.List.Induction
import Mathlib.Data.List.Nodup
import Roundtable.Proofs.Text.Blank
import Roundtable.Roster
/-!
A roster after any changes. Its members, its turn and its counts are kept in step: the members are
distinct trimmed names, each of them is counted, and somebody has the turn exactly while there is
somebody to have it. The members stand in the order in which they last joined to some effect, and
the report names them in this order and marks the one whose turn it is.
-/

namespace Roundtable.Roster

/-- The ways in which a roster can change. -/
inductive Change where
  | join (name : String)
  | leave (name : String)
  | switchTo (name : String)
  | activateFirst
  | recordTurn (name : String)
  deriving DecidableEq

def apply (roster : Roster) : Change → Roster
  | .join name => roster.join name
  | .leave name => roster.leave name
  | .switchTo name => roster.switchTo name
  | .activateFirst => roster.activateFirst
  | .recordTurn name => roster.recordTurn name

/-- The roster that changes make of an empty one. -/
def afterChanges (changes : List Change) : Roster :=
  changes.foldl apply ∅

theorem afterChanges_concat (changes : List Change) (change : Change) :
    afterChanges (changes ++ [change]) = (afterChanges changes).apply change := by
  unfold afterChanges
  rw [List.foldl_append, List.foldl_cons, List.foldl_nil]

section Operations

variable {roster : Roster} {name : String}

/-- Joining changes nothing, or puts a new member behind the others. -/
theorem join_cases (roster : Roster) (name : String) :
    (roster.join name = roster ∧ (Text.trim name = "" ∨ Text.trim name ∈ roster.members)) ∨
      (Text.trim name ≠ "" ∧ Text.trim name ∉ roster.members ∧
        roster.join name =
          { members := roster.members ++ [Text.trim name]
            active := roster.active <|> some (Text.trim name)
            turns := roster.turns.insertIfNew (Text.trim name) 0 }) := by
  unfold join
  dsimp only
  split
  · rename_i hold
    left
    simpa [isMember] using hold
  · rename_i hnew
    right
    simpa [isMember] using hnew

theorem members_sublist_leave (roster : Roster) (name : String) :
    (roster.leave name).members.Sublist roster.members := by
  unfold leave
  split
  · exact List.erase_sublist
  · exact List.Sublist.refl _

theorem members_switchTo (roster : Roster) (name : String) :
    (roster.switchTo name).members = roster.members := by
  unfold switchTo
  split <;> rfl

/-- Members, turn and counts in step. -/
structure InStep (roster : Roster) : Prop where
  nodup : roster.members.Nodup
  trimmed : ∀ name ∈ roster.members, Text.IsTrimmed name
  active_member : ∀ name, roster.active = some name → name ∈ roster.members
  members_of_none : roster.active = none → roster.members = []
  counted : ∀ name ∈ roster.members, name ∈ roster.turns

namespace InStep

theorem empty : InStep ∅ where
  nodup := List.nodup_nil
  trimmed name hname := by cases hname
  active_member name hname := by cases hname
  members_of_none _ := rfl
  counted name hname := by cases hname

theorem join (h : roster.InStep) (name : String) : (roster.join name).InStep := by
  rcases join_cases roster name with ⟨hsame, -⟩ | ⟨hne, hnew, hjoin⟩
  · rw [hsame]
    exact h
  · rw [hjoin]
    constructor
    · rw [← List.concat_eq_append]
      exact h.nodup.concat hnew
    · intro other hother
      rcases List.mem_append.1 hother with hold | hlast
      · exact h.trimmed other hold
      · rw [List.mem_singleton.1 hlast]
        exact Text.isTrimmed_trim hne
    · intro other hother
      cases hactive : roster.active with
      | none =>
          rw [hactive] at hother
          cases hother
          exact List.mem_append_right _ (List.mem_singleton_self _)
      | some current =>
          rw [hactive] at hother
          cases hother
          exact List.mem_append_left _ (h.active_member other hactive)
    · intro hnone
      cases hactive : roster.active <;> simp [hactive] at hnone
    · intro other hother
      rw [Std.ExtTreeMap.mem_insertIfNew]
      rcases List.mem_append.1 hother with hold | hlast
      · exact .inr (h.counted other hold)
      · rw [List.mem_singleton.1 hlast]
        exact .inl Std.ReflCmp.compare_self

theorem leave (h : roster.InStep) (name : String) : (roster.leave name).InStep := by
  unfold Roster.leave
  split
  · rename_i hmember
    have hsub : (roster.members.erase name).Sublist roster.members := List.erase_sublist
    constructor
    · exact h.nodup.sublist hsub
    · exact fun other hother => h.trimmed other (hsub.subset hother)
    · intro other hother
      dsimp only at hother
      split at hother
      · exact List.mem_of_head? hother
      · rename_i hactive
        refine (List.mem_erase_of_ne ?_).2 (h.active_member other hother)
        rintro rfl
        exact hactive hother
    · intro hnone
      dsimp only at hnone
      split at hnone
      · exact List.head?_eq_none_iff.1 hnone
      · rw [h.members_of_none hnone]
        rfl
    · intro other hother
      have hne : name ≠ other := by
        rintro rfl
        exact h.nodup.not_mem_erase hother
      rw [Std.ExtTreeMap.mem_erase]
      exact ⟨fun heq => hne (Std.LawfulEqCmp.eq_of_compare heq),
        h.counted other (hsub.subset hother)⟩
  · exact h

theorem switchTo (h : roster.InStep) (name : String) : (roster.switchTo name).InStep := by
  unfold Roster.switchTo
  split
  · rename_i hmember
    refine ⟨h.nodup, h.trimmed, ?_, (fun hnone => by cases hnone), h.counted⟩
    intro other hother
    cases hother
    exact List.contains_iff_mem.1 hmember
  · exact h

theorem activateFirst (h : roster.InStep) : roster.activateFirst.InStep where
  nodup := h.nodup
  trimmed := h.trimmed
  active_member _ hname := List.mem_of_head? hname
  members_of_none hnone := List.head?_eq_none_iff.1 hnone
  counted := h.counted

theorem recordTurn (h : roster.InStep) (name : String) : (roster.recordTurn name).InStep where
  nodup := h.nodup
  trimmed := h.trimmed
  active_member := h.active_member
  members_of_none := h.members_of_none
  counted other hother := Std.ExtTreeMap.mem_insert.2 (.inr (h.counted other hother))

theorem apply (h : roster.InStep) (change : Change) : (roster.apply change).InStep := by
  cases change with
  | join name => exact h.join name
  | leave name => exact h.leave name
  | switchTo name => exact h.switchTo name
  | activateFirst => exact h.activateFirst
  | recordTurn name => exact h.recordTurn name

theorem afterChanges (changes : List Change) : (afterChanges changes).InStep := by
  induction changes using List.reverseRecOn with
  | nil => exact empty
  | append_singleton earlier change ih =>
      rw [afterChanges_concat]
      exact ih.apply change

/-- A name that is a member already changes nothing by joining. -/
theorem join_eq_self (h : roster.InStep) {name : String}
    (hname : name ∈ roster.members ∨ Text.trim name ∈ roster.members) :
    roster.join name = roster := by
  have htrim : Text.trim name ∈ roster.members := by
    rcases hname with hmember | hmember
    · rwa [(h.trimmed name hmember).trim_eq]
    · exact hmember
  rcases join_cases roster name with ⟨hsame, -⟩ | ⟨-, hnew, -⟩
  · exact hsame
  · exact absurd htrim hnew

end InStep

end Operations

/-! ### The order of the members -/

section Order

variable {changes : List Change} {change : Change} {name : String} {position : Nat}

/-- The change at a position is a join that makes a name a member. -/
def JoinsAt (changes : List Change) (name : String) (position : Nat) : Prop :=
  (∃ given, changes[position]? = some (.join given) ∧ Text.trim given = name) ∧
    name ∉ (afterChanges (changes.take position)).members ∧
    name ∈ (afterChanges (changes.take (position + 1))).members

/-- The last position at which a name was made a member. -/
def IsLastJoin (changes : List Change) (name : String) (position : Nat) : Prop :=
  JoinsAt changes name position ∧ ∀ other, JoinsAt changes name other → other ≤ position

/-- The first name was last made a member before the second one was. -/
def JoinedBefore (changes : List Change) (first second : String) : Prop :=
  ∃ earlier later, IsLastJoin changes first earlier ∧ IsLastJoin changes second later ∧
    earlier < later

theorem JoinsAt.lt_length (h : JoinsAt changes name position) : position < changes.length := by
  obtain ⟨⟨given, hgiven, -⟩, -⟩ := h
  exact (List.getElem?_eq_some_iff.1 hgiven).1

/-- One more change adds one more join at most, at its own position. -/
theorem joinsAt_concat : JoinsAt (changes ++ [change]) name position ↔
    JoinsAt changes name position ∨
      position = changes.length ∧ JoinsAt (changes ++ [change]) name changes.length := by
  constructor
  · intro h
    have hlt := h.lt_length
    rw [List.length_append, List.length_singleton] at hlt
    rcases Nat.lt_or_ge position changes.length with hold | hnew
    · left
      unfold JoinsAt at h ⊢
      rwa [List.getElem?_append_left hold, List.take_append_of_le_length (Nat.le_of_lt hold),
        List.take_append_of_le_length hold] at h
    · obtain rfl : position = changes.length := by omega
      exact .inr ⟨rfl, h⟩
  · rintro (h | ⟨rfl, h⟩)
    · have hold := h.lt_length
      unfold JoinsAt at h ⊢
      rwa [List.getElem?_append_left hold, List.take_append_of_le_length (Nat.le_of_lt hold),
        List.take_append_of_le_length hold]
    · exact h

theorem joinsAt_length : JoinsAt (changes ++ [change]) name changes.length ↔
    (∃ given, change = .join given ∧ Text.trim given = name) ∧
      name ∉ (afterChanges changes).members ∧
      name ∈ ((afterChanges changes).apply change).members := by
  unfold JoinsAt
  rw [List.getElem?_concat_length, List.take_left', ← afterChanges_concat, List.take_of_length_le]
  · simp
  · simp
  · rfl

/-- Where a change does not make a name a member, its last join stays where it was. -/
theorem IsLastJoin.concat (h : IsLastJoin changes name position)
    (hnot : ¬JoinsAt (changes ++ [change]) name changes.length) :
    IsLastJoin (changes ++ [change]) name position := by
  refine ⟨joinsAt_concat.2 (.inl h.1), fun other hother => ?_⟩
  rcases joinsAt_concat.1 hother with hold | ⟨-, hnew⟩
  · exact h.2 other hold
  · exact absurd hnew hnot

theorem JoinsAt.isLastJoin (h : JoinsAt (changes ++ [change]) name changes.length) :
    IsLastJoin (changes ++ [change]) name changes.length := by
  refine ⟨h, fun other hother => ?_⟩
  have hlt := hother.lt_length
  rw [List.length_append, List.length_singleton] at hlt
  omega

/-- The members stand in the order of their last joins. -/
structure InJoinOrder (changes : List Change) : Prop where
  joined : ∀ name ∈ (afterChanges changes).members, ∃ position, IsLastJoin changes name position
  pairwise : (afterChanges changes).members.Pairwise (JoinedBefore changes)

/-- A change that brings in nobody keeps the order. -/
theorem InJoinOrder.concat_of_sublist (h : InJoinOrder changes)
    (hsub : ((afterChanges changes).apply change).members.Sublist (afterChanges changes).members) :
    InJoinOrder (changes ++ [change]) := by
  have hnot (name : String) : ¬JoinsAt (changes ++ [change]) name changes.length := by
    rw [joinsAt_length]
    exact fun ⟨_, hold, hnew⟩ => hold (hsub.subset hnew)
  constructor
  · rw [afterChanges_concat]
    intro name hname
    obtain ⟨position, hlast⟩ := h.joined name (hsub.subset hname)
    exact ⟨position, hlast.concat (hnot name)⟩
  · rw [afterChanges_concat]
    refine (h.pairwise.sublist hsub).imp ?_
    rintro first second ⟨earlier, later, hfirst, hsecond, hlt⟩
    exact ⟨earlier, later, hfirst.concat (hnot first), hsecond.concat (hnot second), hlt⟩

/-- A new member stands last and was the last to join. -/
theorem InJoinOrder.concat_join (h : InJoinOrder changes) {given : String}
    (hnew : Text.trim given ∉ (afterChanges changes).members)
    (hmembers : ((afterChanges changes).join given).members =
      (afterChanges changes).members ++ [Text.trim given]) :
    InJoinOrder (changes ++ [.join given]) := by
  have hlast : IsLastJoin (changes ++ [.join given]) (Text.trim given) changes.length := by
    refine (joinsAt_length.2 ⟨⟨given, rfl, rfl⟩, hnew, ?_⟩).isLastJoin
    rw [apply, hmembers]
    exact List.mem_append_right _ (List.mem_singleton_self _)
  have hkeep {name : String} {position : Nat} (hname : name ∈ (afterChanges changes).members)
      (hold : IsLastJoin changes name position) :
      IsLastJoin (changes ++ [.join given]) name position :=
    hold.concat fun hjoin => (joinsAt_length.1 hjoin).2.1 hname
  constructor
  · rw [afterChanges_concat, apply, hmembers]
    intro name hname
    rcases List.mem_append.1 hname with hold | hnewest
    · obtain ⟨position, hposition⟩ := h.joined name hold
      exact ⟨position, hkeep hold hposition⟩
    · rw [List.mem_singleton.1 hnewest]
      exact ⟨_, hlast⟩
  · rw [afterChanges_concat, apply, hmembers, List.pairwise_append]
    refine ⟨h.pairwise.imp_of_mem ?_, List.pairwise_singleton _ _, ?_⟩
    · rintro first second hfirst hsecond ⟨earlier, later, hearlier, hlater, hlt⟩
      exact ⟨earlier, later, hkeep hfirst hearlier, hkeep hsecond hlater, hlt⟩
    · intro name hname newest hnewest
      rw [List.mem_singleton.1 hnewest]
      obtain ⟨position, hposition⟩ := h.joined name hname
      exact ⟨position, _, hkeep hname hposition, hlast, hposition.1.lt_length⟩

theorem inJoinOrder (changes : List Change) : InJoinOrder changes := by
  induction changes using List.reverseRecOn with
  | nil => exact ⟨fun _ hname => absurd hname List.not_mem_nil, List.Pairwise.nil⟩
  | append_singleton earlier change ih =>
      cases change with
      | join given =>
          rcases join_cases (afterChanges earlier) given with ⟨hsame, -⟩ | ⟨-, hnew, hjoin⟩
          · apply ih.concat_of_sublist
            rw [apply, hsame]
          · exact ih.concat_join hnew (by rw [hjoin])
      | leave name => exact ih.concat_of_sublist (members_sublist_leave _ name)
      | switchTo name =>
          apply ih.concat_of_sublist
          rw [apply, members_switchTo]
      | activateFirst => exact ih.concat_of_sublist (List.Sublist.refl _)
      | recordTurn name => exact ih.concat_of_sublist (List.Sublist.refl _)

end Order

/-! ### The report -/

section Report

variable (roster : Roster) (name : String)

/-- What a report says of a member, whoever has the turn. -/
def tally : String :=
  "* " ++ name ++ " (" ++ toString (roster.turnCount name) ++ " turns)"

def activeMark : String := " <- active"

/-- Whether a line of a report ends in the mark of the turn. -/
def isMarked (line : String) : Bool :=
  activeMark.toList.isSuffixOf line.toList

theorem describeMember_eq : roster.describeMember name =
    roster.tally name ++ if roster.active = some name then activeMark else "" := rfl

/-- Without the mark a line ends in a parenthesis, so no name can look like one. -/
theorem isMarked_tally : isMarked (roster.tally name) = false := by
  have hend : (roster.tally name).toList.getLast? = some ')' := by
    rw [tally, String.toList_append, List.getLast?_append]
    rfl
  have hmark : activeMark.toList.getLast? = some 'e' := by decide
  rw [isMarked, Bool.eq_false_iff, ne_eq, List.isSuffixOf_iff_suffix]
  rintro ⟨before, hline⟩
  rw [← hline, List.getLast?_append, hmark] at hend
  cases hend

theorem isMarked_describeMember :
    isMarked (roster.describeMember name) = true ↔ roster.active = some name := by
  rw [describeMember_eq]
  split
  · rename_i hactive
    rw [isMarked, List.isSuffixOf_iff_suffix, String.toList_append]
    exact iff_of_true (List.suffix_append _ _) hactive
  · rename_i hnot
    rw [String.append_empty, isMarked_tally]
    exact iff_of_false Bool.false_ne_true hnot

variable {roster}

/-- Exactly one line of a report is marked, if it has any. -/
theorem InStep.countP_isMarked (h : roster.InStep) (hne : roster.members ≠ []) :
    roster.describe.countP isMarked = 1 := by
  cases hactive : roster.active with
  | none => exact absurd (h.members_of_none hactive) hne
  | some current =>
      have hmarked : (isMarked ∘ roster.describeMember) = (· == current) := by
        funext name
        rw [Bool.eq_iff_iff, Function.comp_apply, isMarked_describeMember, hactive,
          Option.some_inj, beq_iff_eq, eq_comm]
      rw [describe, List.countP_map, hmarked]
      exact List.count_eq_one_of_mem h.nodup (h.active_member current hactive)

/-- A roster after any changes: its members are distinct and trimmed, in the order of their last
joins, and all counted; the turn is with one of them, if there is one; the report has a line for
each of them in this order and marks exactly the one in turn; and joining again changes nothing. -/
theorem afterChanges_orderly (changes : List Change) :
    let roster := afterChanges changes
    roster.members.Nodup ∧
    (∀ name ∈ roster.members, Text.IsTrimmed name) ∧
    (∀ name ∈ roster.members, ∃ position, IsLastJoin changes name position) ∧
    roster.members.Pairwise (JoinedBefore changes) ∧
    (roster.active = none ↔ roster.members = []) ∧
    (∀ name, roster.active = some name → name ∈ roster.members) ∧
    (∀ name ∈ roster.members, name ∈ roster.turns) ∧
    roster.describe = (roster.members.map fun name =>
      roster.tally name ++ if roster.active = some name then activeMark else "") ∧
    (roster.members ≠ [] → roster.describe.countP isMarked = 1) ∧
    ∀ name, name ∈ roster.members ∨ Text.trim name ∈ roster.members → roster.join name = roster := by
  intro roster
  have h : roster.InStep := InStep.afterChanges changes
  have hnone : roster.active = none ↔ roster.members = [] := by
    refine ⟨h.members_of_none, fun hempty => ?_⟩
    cases hactive : roster.active with
    | none => rfl
    | some name =>
        have hmember := h.active_member name hactive
        rw [hempty] at hmember
        cases hmember
  exact ⟨h.nodup, h.trimmed, (inJoinOrder changes).joined, (inJoinOrder changes).pairwise, hnone,
    h.active_member, h.counted, rfl, h.countP_isMarked, fun _ hname => h.join_eq_self hname⟩

end Report

end Roundtable.Roster
