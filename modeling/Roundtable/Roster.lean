import Std.Data.ExtTreeMap
import Roundtable.Text.Blank
/-!
The roster of a session: who has joined, whose turn it is, and how many turns each name has taken.
Names outside the roster can have taken turns too, since submissions that nobody answers for are
counted under a name of their own.
-/

namespace Roundtable

structure Roster where
  /-- Those who have joined, in the order in which they did. -/
  members : List String
  /-- Whose turn it is. -/
  active : Option String
  /-- The turns taken under each name. -/
  turns : Std.ExtTreeMap String Nat

namespace Roster

def empty : Roster := ⟨[], none, ∅⟩

instance : EmptyCollection Roster := ⟨empty⟩

def isMember (roster : Roster) (name : String) : Bool :=
  roster.members.contains name

def turnCount (roster : Roster) (name : String) : Nat :=
  roster.turns.getD name 0

/-- Adds a name, which gets the turn if nobody has it. A blank name and a second one are ignored;
a name that took turns before it joined keeps them. -/
def join (roster : Roster) (name : String) : Roster :=
  let name := Text.trim name
  if name.isEmpty || roster.isMember name then roster
  else
    { members := roster.members ++ [name]
      active := roster.active <|> some name
      turns := roster.turns.insertIfNew name 0 }

/-- Removes a member and its count. If it had the turn, the turn goes to who joined first. -/
def leave (roster : Roster) (name : String) : Roster :=
  if roster.isMember name then
    let members := roster.members.erase name
    { members
      active := if roster.active = some name then members.head? else roster.active
      turns := roster.turns.erase name }
  else roster

/-- Gives the turn to a member; other names are ignored. -/
def switchTo (roster : Roster) (name : String) : Roster :=
  if roster.isMember name then { roster with active := some name } else roster

/-- Gives the turn to who joined first, or to nobody. -/
def activateFirst (roster : Roster) : Roster :=
  { roster with active := roster.members.head? }

/-- Counts a turn for a name, member or not. -/
def recordTurn (roster : Roster) (name : String) : Roster :=
  { roster with turns := roster.turns.insert name (roster.turnCount name + 1) }

/-- The line of a report for a member. -/
def describeMember (roster : Roster) (name : String) : String :=
  "* " ++ name ++ " (" ++ toString (roster.turnCount name) ++ " turns)"
    ++ if roster.active = some name then " <- active" else ""

/-- One line of a report for each member. -/
def describe (roster : Roster) : List String :=
  roster.members.map roster.describeMember

end Roster

end Roundtable
