import Roundtable.Files.Store
import Roundtable.Script.Submission
import Roundtable.Session.Config
/-!
A session: its settings, who takes part, what was submitted, and the bindings and lists that all
scripts share. It stands in a world of files and of an output, and scripts run in that world.
-/

namespace Roundtable

open Script

inductive Phase where
  | running | terminated
  deriving DecidableEq, Repr

structure Session where
  config : Config
  roster : Roster
  journal : Journal
  bindings : Bindings
  heap : Heap
  phase : Phase

/-- A session that nobody has joined. -/
def Session.fresh (config : Config) : Session :=
  ⟨config, ∅, ∅, .seeded config.sessionName, .empty, .running⟩

/-- What scripts see of the session through their live views. -/
def Session.room (session : Session) : Room :=
  ⟨session.roster, session.journal⟩

/-- A session, its files and its output. -/
structure World (σ : Type) (ω : Type := Output) where
  session : Session
  files : σ
  output : ω

/-- Something done in the world that can be broken off by a fault of its own kind. -/
abbrev ActivityOn (ω σ ε α : Type) := EStateM ε (World σ ω) α

/-- Something done in a world whose output counts bytes. -/
abbrev Activity (σ ε α : Type) := ActivityOn Output σ ε α

inductive LoadFault where
  | unreadable (path : String) (fault : FileFault)
  | failed (path : String) (fault : ScriptFault)
  deriving DecidableEq

/-- What was being done, without the cause. -/
def LoadFault.summary : LoadFault → String
  | .unreadable path _ => "Cannot load '" ++ path ++ "'"
  | .failed path _ => "Script '" ++ path ++ "' failed"

def LoadFault.cause : LoadFault → String
  | .unreadable _ fault => fault.message
  | .failed _ fault => fault.message

def LoadFault.message (fault : LoadFault) : String :=
  fault.summary ++ ": " ++ fault.cause

inductive BootstrapFault where
  | missing (path : String)
  | unreadable (path : String) (fault : FileFault)
  | failed (path : String) (fault : ScriptFault)
  deriving DecidableEq

/-- What was being done, without the cause. -/
def BootstrapFault.summary : BootstrapFault → String
  | .missing path => "Bootstrap script '" ++ path ++ "' was not found"
  | .unreadable path _ => "Bootstrap script '" ++ path ++ "' could not be read"
  | .failed path _ => "Bootstrap script '" ++ path ++ "' failed"

def BootstrapFault.message (fault : BootstrapFault) : String :=
  match fault with
  | .missing _ => fault.summary
  | .unreadable _ cause => fault.summary ++ ": " ++ cause.message
  | .failed _ cause => fault.summary ++ ": " ++ cause.message

namespace Session

variable {σ ε α ω : Type}

/-- Changes the session alone. -/
def update (change : Session → Session) : ActivityOn ω σ ε Unit :=
  fun ⟨session, files, output⟩ => .ok () ⟨change session, files, output⟩

/-- Writes a text. What the output takes of it stays written even if it does not take it all. -/
def write [Sink ω] (text : String) : ActivityOn ω σ OutputFault Unit :=
  fun ⟨session, files, output⟩ =>
    match Sink.write output text with
    | (output, true) => .ok () ⟨session, files, output⟩
    | (output, false) => .error .full ⟨session, files, output⟩

def writeLine [Sink ω] (text : String) : ActivityOn ω σ OutputFault Unit :=
  write (text ++ "\n")

/-- Runs a script on what the session shares. Its fault is a result, and what it did stays. -/
def runScript (script : Room → ExecutionOn ω ScriptFault α) :
    ActivityOn ω σ ε (Except ScriptFault α) :=
  fun ⟨session, files, output⟩ =>
    let ⟨config, roster, journal, bindings, heap, phase⟩ := session
    match script ⟨roster, journal⟩ ⟨bindings, heap, output⟩ with
    | .ok value ⟨bindings, heap, output⟩ =>
      .ok (.ok value) ⟨⟨config, roster, journal, bindings, heap, phase⟩, files, output⟩
    | .error fault ⟨bindings, heap, output⟩ =>
      .ok (.error fault) ⟨⟨config, roster, journal, bindings, heap, phase⟩, files, output⟩

/-- Binds nothing but the seeded names, and forgets the lists, which no name leads to. -/
def resetScripts (session : Session) : Session :=
  { session with bindings := .seeded session.config.sessionName, heap := .empty }

/-- Runs the file at a path as a block of statements. -/
def loadFile [FileStore σ] [Sink ω] (path : String) :
    ActivityOn ω σ ε (Except LoadFault Unit) := do
  let path := Files.expandHome (← get).session.config.home path
  match FileStore.read (← get).files path with
  | .error fault => return .error (.unreadable path fault)
  | .ok source =>
    let result ← runScript fun room => executeBlock room source
    return result.mapError (.failed path)

/-- Runs the script that comes before the first line. -/
def runBootstrap [FileStore σ] [Sink ω] (path : String) :
    ActivityOn ω σ BootstrapFault Unit := do
  if FileStore.exists? (← get).files path then
    match FileStore.read (← get).files path with
    | .error fault => throw (.unreadable path fault)
    | .ok source =>
      match ← runScript fun room => executeBlock room source with
      | .ok () => return ()
      | .error fault => throw (.failed path fault)
  else throw (.missing path)

def begin [FileStore σ] [Sink ω] : ActivityOn ω σ BootstrapFault Unit := do
  match (← get).session.config.bootstrap with
  | none => return ()
  | some path => runBootstrap path

end Session

end Roundtable
