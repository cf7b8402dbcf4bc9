import Roundtable.Roster
/-!
How the operations on a roster move the counts of turns, one law for each, and that the members and
the turn do not depend on the counts.
-/

namespace Roundtable.Roster

variable (roster : Roster) (name other : String)

@[simp]
theorem turnCount_empty : (∅ : Roster).turnCount name = 0 := by
  show Std.ExtTreeMap.getD ∅ name 0 = 0
  exact Std.ExtTreeMap.getD_empty

/-- Joining gives a name a count only if it has none, and that count is zero. -/
@[simp]
theorem turnCount_join : (roster.join name).turnCount other = roster.turnCount other := by
  unfold join
  dsimp only
  split
  · rfl
  · show Std.ExtTreeMap.getD _ other 0 = Std.ExtTreeMap.getD _ other 0
    rw [Std.ExtTreeMap.getD_insertIfNew]
    split
    · rename_i hnew
      have heq : Text.trim name = other := Std.LawfulEqCmp.eq_of_compare hnew.1
      rw [heq] at hnew
      exact (Std.ExtTreeMap.getD_eq_fallback hnew.2).symm
    · rfl

theorem turnCount_leave : (roster.leave name).turnCount other =
    if roster.isMember name ∧ name = other then 0 else roster.turnCount other := by
  unfold leave
  by_cases hmember : roster.isMember name
  · rw [if_pos hmember]
    show Std.ExtTreeMap.getD _ other 0 = _
    rw [Std.ExtTreeMap.getD_erase]
    simp only [Std.LawfulEqCmp.compare_eq_iff_eq, hmember, true_and]
    rfl
  · rw [if_neg hmember, if_neg fun h => hmember h.1]

@[simp]
theorem turnCount_switchTo : (roster.switchTo name).turnCount other = roster.turnCount other := by
  unfold switchTo
  split <;> rfl

@[simp]
theorem turnCount_activateFirst : roster.activateFirst.turnCount name = roster.turnCount name := rfl

theorem turnCount_recordTurn : (roster.recordTurn name).turnCount other =
    roster.turnCount other + if name = other then 1 else 0 := by
  show Std.ExtTreeMap.getD _ other 0 = _
  unfold recordTurn
  rw [Std.ExtTreeMap.getD_insert]
  simp only [Std.LawfulEqCmp.compare_eq_iff_eq]
  split
  · rename_i heq
    rw [heq]
  · rfl

/-- Two rosters with the same members, of whom the same one has the turn. -/
def SameSeats (first second : Roster) : Prop :=
  first.members = second.members ∧ first.active = second.active

namespace SameSeats

variable {first second : Roster}

theorem isMember (h : first.SameSeats second) : first.isMember name = second.isMember name := by
  unfold Roster.isMember
  rw [h.1]

theorem join (h : first.SameSeats second) : (first.join name).SameSeats (second.join name) := by
  unfold Roster.join
  dsimp only
  rw [h.isMember]
  split
  · exact h
  · exact ⟨by rw [h.1], by rw [h.2]⟩

theorem leave (h : first.SameSeats second) : (first.leave name).SameSeats (second.leave name) := by
  unfold Roster.leave
  rw [h.isMember]
  split
  · exact ⟨by dsimp only; rw [h.1], by dsimp only; rw [h.1, h.2]⟩
  · exact h

theorem switchTo (h : first.SameSeats second) :
    (first.switchTo name).SameSeats (second.switchTo name) := by
  unfold Roster.switchTo
  rw [h.isMember]
  split
  · exact ⟨h.1, rfl⟩
  · exact h

theorem activateFirst (h : first.SameSeats second) :
    first.activateFirst.SameSeats second.activateFirst :=
  ⟨h.1, congrArg List.head? h.1⟩

end SameSeats

/-- Two rosters that nobody can tell apart: the same seats, and the same number of turns under each
name, whether or not a name without turns is counted. -/
structure Alike (first second : Roster) : Prop where
  sameSeats : first.SameSeats second
  turnCount_eq : ∀ name, first.turnCount name = second.turnCount name

namespace Alike

variable {first second : Roster}

theorem join (h : first.Alike second) : (first.join name).Alike (second.join name) :=
  ⟨h.sameSeats.join name, fun other => by simp only [turnCount_join, h.turnCount_eq]⟩

theorem leave (h : first.Alike second) : (first.leave name).Alike (second.leave name) :=
  ⟨h.sameSeats.leave name, fun other => by
    simp only [turnCount_leave, h.turnCount_eq, h.sameSeats.isMember]⟩

theorem switchTo (h : first.Alike second) : (first.switchTo name).Alike (second.switchTo name) :=
  ⟨h.sameSeats.switchTo name, fun other => by simp only [turnCount_switchTo, h.turnCount_eq]⟩

/-- With the first member in turn, whose turn it was no longer counts. -/
theorem activateFirst (hmembers : first.members = second.members)
    (hturns : ∀ name, first.turnCount name = second.turnCount name) :
    first.activateFirst.Alike second.activateFirst :=
  ⟨⟨hmembers, congrArg List.head? hmembers⟩, fun name => by
    rw [turnCount_activateFirst, turnCount_activateFirst, hturns]⟩

theorem recordTurn (h : first.Alike second) :
    (first.recordTurn name).Alike (second.recordTurn name) :=
  ⟨h.sameSeats, fun other => by simp only [turnCount_recordTurn, h.turnCount_eq]⟩

theorem describe_eq (h : first.Alike second) : first.describe = second.describe := by
  unfold describe
  rw [h.sameSeats.1]
  refine List.map_congr_left fun name _ => ?_
  unfold describeMember
  rw [h.turnCount_eq, h.sameSeats.2]

end Alike

end Roundtable.Roster
