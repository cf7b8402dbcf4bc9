import Roundtable.Command
import Roundtable.Journal.LogText
import Roundtable.Session.Basic
/-!
What a session does with one line of input. Faults of scripts and of files are reported on the
output and end nothing; only an output that takes no more breaks a line off. Whatever a line changes
in the session is changed before it writes.
-/

namespace Roundtable

open Script

/-- Whether the session goes on after a line. -/
inductive Signal where
  | continue | terminate
  deriving DecidableEq, Repr

namespace Session

variable {σ ω : Type}

def banner (session : Session) : String :=
  "Welcome to Campfire: " ++ session.config.sessionName ++ "!\nType "
    ++ session.config.marker.toString
    ++ "help for commands. Everyone shares the same context, take turns!"

/-- What is shown before a line is read: whose turn it is. -/
def prompt (session : Session) : String :=
  "[" ++ session.roster.active.getD "no-player" ++ "] >>> "

/-- Who a submission is attributed to now. -/
def author (session : Session) : String :=
  session.roster.active.getD session.config.placeholder

/-- The session after a submission is entered and counted, before it runs. -/
def record (session : Session) (now : Moment) (code : String) : Session :=
  { session with
    journal := session.journal.record session.author code now
    roster := session.roster.recordTurn session.author }

/-- Enters a submission, runs it, and shows its value or its fault. -/
def submit [Sink ω] (now : Moment) (code : String) : ActivityOn ω σ OutputFault Unit := do
  update (·.record now code)
  match ← runScript fun room => executeSubmission room code with
  | .ok none => return ()
  | .ok (some value) =>
    let text := (fun session : Session => value.display session.room session.heap) (← get).session
    writeLine text
  | .error fault => writeLine ("Error: " ++ fault.message)

def writeLines [Sink ω] (lines : List String) : ActivityOn ω σ OutputFault Unit :=
  lines.forM writeLine

def playerLines (session : Session) : List String :=
  match session.roster.describe with
  | [] =>
    ["No players have joined yet. Use " ++ session.config.marker.toString
      ++ "join <name> to start."]
  | lines => lines

def historyLines (session : Session) : List String :=
  if session.journal.entries.isEmpty then ["History is empty."]
  else (session.journal.tail session.config.historyWindow).map Entry.line

/-- Saves the history as a log, and tells where or why not. -/
def saveHistory [FileStore σ] [Sink ω] (path : String) : ActivityOn ω σ OutputFault Unit := do
  let path := Files.expandHome (← get).session.config.home path
  let text := (← get).session.journal.logText
  let result ← fun ⟨session, files, output⟩ =>
    let (files, result) := FileStore.save files path text
    .ok result ⟨session, files, output⟩
  match result with
  | .ok () => writeLine ("History saved to " ++ path)
  | .error fault => writeLine ("Error: " ++ fault.message)

/-- Runs a script file, and tells what went wrong with it. -/
def load [FileStore σ] [Sink ω] (path : String) : ActivityOn ω σ OutputFault Unit := do
  match ← loadFile path with
  | .ok () => return ()
  | .error fault => writeLine ("Error: " ++ fault.message)

/-- The session without bindings, lists and history; the members stay, and the turn goes to the
first of them. -/
def reset (session : Session) : Session :=
  { session.resetScripts with journal := ∅, roster := session.roster.activateFirst }

def runCommand [FileStore σ] [Sink ω] : Command → ActivityOn ω σ OutputFault Signal
  | .join name => do
    update fun session => { session with roster := session.roster.join name }
    return .continue
  | .switch name => do
    update fun session => { session with roster := session.roster.switchTo name }
    return .continue
  | .leave name => do
    update fun session => { session with roster := session.roster.leave name }
    return .continue
  | .players => do
    writeLines (← get).session.playerLines
    return .continue
  | .history => do
    writeLines (← get).session.historyLines
    return .continue
  | .load path => do
    load path
    return .continue
  | .save path => do
    saveHistory path
    return .continue
  | .reset => do
    update reset
    writeLine "Context and history cleared; players kept."
    return .continue
  | .help => do
    writeLine (Command.helpText (← get).session.config.marker)
    return .continue
  | .quit => do
    update fun session => { session with phase := .terminated }
    return .terminate
  | .unknown _ => do
    writeLine (Command.unknownNotice (← get).session.config.marker)
    return .continue

/-- Handles one line of input at the moment `now`. -/
def handleLine [FileStore σ] [Sink ω] (now : Moment) (line : String) :
    ActivityOn ω σ OutputFault Signal := do
  match Line.ofText (← get).session.config.marker line with
  | .blank => return .continue
  | .command command => runCommand command
  | .submission code => do
    submit now code
    return .continue

end Session

end Roundtable
