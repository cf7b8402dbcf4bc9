import Roundtable.Journal
import Roundtable.Text.Letter
/-!
The text form of a journal: one line `[HH:MM:SS] author: code` for each entry. Reading a log back
gives the authors and codes of the lines that have this form and passes over the others; the author
ends at the first colon that a space follows.
-/

namespace Roundtable.Journal

def logText (journal : Journal) : String :=
  "\n".intercalate (journal.entries.toList.map Entry.line)

/-- The characters of a line, given last first, without the carriage return that belongs to the
line feed behind them. -/
def beforeLineFeed : List Char → List Char
  | '\r' :: line => line.reverse
  | line => line.reverse

/-- The lines of a text: what stands before each line feed, and what follows the last one unless it
is empty. A carriage return before a line feed belongs to the line end. `line` holds the beginning
of the first line, last character first. -/
def linesFrom (line : List Char) : List Char → List (List Char)
  | [] => if line.isEmpty then [] else [line.reverse]
  | c :: rest =>
    if c = '\n' then beforeLineFeed line :: linesFrom [] rest else linesFrom (c :: line) rest

/-- What follows the pattern at the head of `text`, in which a zero stands for any decimal digit
and every other character for itself. -/
def afterPattern? : List Char → List Char → Option (List Char)
  | [], text => some text
  | _ :: _, [] => none
  | p :: pattern, c :: text =>
    if (if p = '0' then Text.isDecimalDigit c else c = p) then afterPattern? pattern text else none

/-- The text before the first colon that a space follows, and the text after that space. -/
def splitAuthor? : List Char → Option (List Char × List Char)
  | ':' :: ' ' :: code => some ([], code)
  | c :: rest => (splitAuthor? rest).map fun (author, code) => (c :: author, code)
  | [] => none

/-- The author and the code of one line of a log. -/
def readLogLine? (line : List Char) : Option (String × String) := do
  let rest ← afterPattern? "[00:00:00] ".toList line
  let (author, code) ← splitAuthor? rest
  return (String.ofList author, String.ofList code)

/-- The authors and codes of the entries that the text of a log records. -/
def readLog (text : String) : List (String × String) :=
  (linesFrom [] text.toList).filterMap readLogLine?

end Roundtable.Journal
