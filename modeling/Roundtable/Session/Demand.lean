import Roundtable.Session.Turn
/-!
What a line needs of the files outside. No line needs more than one file, so whoever holds the real
files can answer the demand of a line first and then handle the line with that answer as its store.
-/

namespace Roundtable

/-- A use of a file that a line makes. -/
inductive Demand where
  | nothing
  | read (path : String)
  | save (path text : String)
  deriving DecidableEq, Repr

/-- The use of a file that a line makes in a session. -/
def Session.demand (session : Session) (line : String) : Demand :=
  let expand := Files.expandHome session.config.home
  match Line.ofText session.config.marker line with
  | .command (.load path) => .read (expand path)
  | .command (.save path) => .save (expand path) session.journal.logText
  | _ => .nothing

/-- The answer to a demand, as a store that knows only that answer. -/
structure Answered where
  found : Bool := false
  content : Except FileFault String := .error .notFound
  saved : Except SaveFault Unit := .ok ()

instance : FileStore Answered where
  exists? answered _ := answered.found
  read answered _ := answered.content
  save answered _ _ := (answered, answered.saved)

end Roundtable
