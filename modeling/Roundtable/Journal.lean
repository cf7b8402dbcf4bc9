import Roundtable.Moment
/-!
The journal of a session: who submitted what, and when, in the order of submission. Entries are
never changed; the only way to lose them is to clear the journal.
-/

namespace Roundtable

structure Entry where
  author : String
  code : String
  moment : Moment
  deriving DecidableEq, Repr

/-- The time of day at which an entry was made. -/
def Entry.time (entry : Entry) : String :=
  String.ofList entry.moment.clockTime

/-- An entry as one line of a log, unless its author or code breaks it. -/
def Entry.line (entry : Entry) : String :=
  "[" ++ entry.time ++ "] " ++ entry.author ++ ": " ++ entry.code

structure Journal where
  entries : Array Entry
  deriving DecidableEq, Repr

namespace Journal

def empty : Journal := ⟨#[]⟩

instance : EmptyCollection Journal := ⟨empty⟩

def length (journal : Journal) : Nat :=
  journal.entries.size

def record (journal : Journal) (author code : String) (moment : Moment) : Journal :=
  ⟨journal.entries.push ⟨author, code, moment⟩⟩

/-- The last `n` entries, oldest first. -/
def tail (journal : Journal) (n : Nat) : List Entry :=
  journal.entries.toList.drop (journal.length - n)

def get? (journal : Journal) (position : Nat) : Option Entry :=
  journal.entries[position]?

end Journal

end Roundtable
