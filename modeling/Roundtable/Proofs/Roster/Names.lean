import Roundtable.Roster
/-!
The names a roster knows: its members and whose turn it is. Only joining brings in a new one.
-/

namespace Roundtable.Roster

/-- A property of every member, and of who has the turn. -/
structure EveryName (holds : String → Prop) (roster : Roster) : Prop where
  member : ∀ name ∈ roster.members, holds name
  active : ∀ name, roster.active = some name → holds name

namespace EveryName

variable {holds : String → Prop} {roster : Roster}

theorem empty : EveryName holds ∅ where
  member name hname := by cases hname
  active name hname := by cases hname

theorem join (h : EveryName holds roster) {name : String} (hname : holds (Text.trim name)) :
    EveryName holds (roster.join name) := by
  unfold Roster.join
  dsimp only
  split
  · exact h
  · constructor
    · intro other hother
      rcases List.mem_append.1 hother with hold | hnew
      · exact h.member other hold
      · rwa [List.mem_singleton.1 hnew]
    · intro other hother
      cases hactive : roster.active with
      | none =>
          rw [hactive] at hother
          cases hother
          exact hname
      | some current =>
          rw [hactive] at hother
          cases hother
          exact h.active other hactive

theorem head (h : EveryName holds roster) {members : List String}
    (hsub : ∀ name ∈ members, name ∈ roster.members) {name : String}
    (hhead : members.head? = some name) : holds name :=
  h.member name (hsub name (List.mem_of_head? hhead))

theorem leave (h : EveryName holds roster) (name : String) :
    EveryName holds (roster.leave name) := by
  have hsub : ∀ other ∈ roster.members.erase name, other ∈ roster.members :=
    fun other hother => List.mem_of_mem_erase hother
  unfold Roster.leave
  split
  · constructor
    · exact fun other hother => h.member other (hsub other hother)
    · intro other hother
      dsimp only at hother
      split at hother
      · exact h.head hsub hother
      · exact h.active other hother
  · exact h

theorem switchTo (h : EveryName holds roster) (name : String) :
    EveryName holds (roster.switchTo name) := by
  unfold Roster.switchTo
  split
  · rename_i hmember
    refine ⟨h.member, fun other hother => ?_⟩
    cases hother
    exact h.member name (List.contains_iff_mem.1 hmember)
  · exact h

theorem activateFirst (h : EveryName holds roster) : EveryName holds roster.activateFirst :=
  ⟨h.member, fun _ hother => h.head (fun _ hmem => hmem) hother⟩

end EveryName

end Roundtable.Roster
