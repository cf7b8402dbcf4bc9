import Roundtable.Text.Blank
import Roundtable.Text.Lowercase
/-!
What a line of input asks for. A line that begins with the marker is a command; every other line
that is not blank is code. Blanks around a line, after the marker and between the words of a command
do not matter, and neither does the case of the command word.
-/

namespace Roundtable

inductive Command where
  | join (name : String)
  | switch (name : String)
  | leave (name : String)
  | players
  | history
  | load (path : String)
  | save (path : String)
  | reset
  | help
  | quit
  /-- A word that is no command, or a command that lacks its argument. -/
  | unknown (word : String)
  deriving DecidableEq, Repr

inductive Line where
  | blank
  | command (command : Command)
  | submission (code : String)
  deriving DecidableEq, Repr

/-- The command that a lowercase word and an argument make. -/
def Command.ofParts (word argument : String) : Command :=
  match word, argument.isEmpty with
  | "join", false => .join argument
  | "switch", false => .switch argument
  | "leave", false => .leave argument
  | "load", false => .load argument
  | "save", false => .save argument
  | "players", _ => .players
  | "history", _ => .history
  | "reset", _ => .reset
  | "help", _ => .help
  | "quit", _ => .quit
  | word, _ => .unknown word

/-- The command behind the marker: its first word, and the others joined by single spaces. -/
def Command.ofText (text : String) : Command :=
  match Text.words text with
  | [] => .ofParts "" ""
  | word :: arguments => .ofParts (Text.lowercase word) (" ".intercalate arguments)

/-- What a line asks for, where `marker` marks the commands. -/
def Line.ofText (marker : Char) (text : String) : Line :=
  let trimmed := Text.trim text
  match trimmed.toList with
  | [] => .blank
  | c :: rest => if c = marker then .command (.ofText (String.ofList rest)) else .submission trimmed

def Command.helpText (marker : Char) : String :=
  let m := marker.toString
  "\n".intercalate [
    "Commands (prefix with " ++ m ++ "):",
    "  " ++ m ++ "join <name>      Add a player and set as active if first",
    "  " ++ m ++ "switch <name>    Change the active player",
    "  " ++ m ++ "leave <name>     Remove a player",
    "  " ++ m ++ "players          Show joined players and turn counts",
    "  " ++ m ++ "history          Show session history",
    "  " ++ m ++ "load <path>      Execute a script file in the shared context",
    "  " ++ m ++ "reset            Clear history and context (keeps players)",
    "  " ++ m ++ "save <path>      Write history to a file",
    "  " ++ m ++ "help             Show this help message",
    "  " ++ m ++ "quit             Exit the session",
    "",
    "Everything else is executed as code in the shared context."]

def Command.unknownNotice (marker : Char) : String :=
  "Unknown command. Type " ++ marker.toString ++ "help for options."

end Roundtable
