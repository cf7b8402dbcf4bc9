/-!
The settings of a session, which stay as they are while it lasts.
-/

namespace Roundtable

structure Config where
  /-- Shown when the session begins, and bound to a name that scripts can read. -/
  sessionName : String := "Campfire"
  /-- A script to run before the first line. -/
  bootstrap : Option String := none
  /-- How many entries the history command shows. -/
  historyWindow : Nat := 25
  /-- Who a submission is attributed to while nobody has the turn. -/
  placeholder : String := "anonymous"
  /-- What a line begins with that is a command. -/
  marker : Char := '/'
  /-- What a tilde at the head of a path stands for. -/
  home : Option String := none
  deriving DecidableEq, Repr

end Roundtable
