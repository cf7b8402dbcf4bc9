import Std.Time.Zoned
import Roundtable.CommandLine
import Roundtable.Session.Demand
/-!
The program on the real standard streams, files and clock. What it does is decided by the session;
here lines are read, the demands of lines are answered from the disk, and bytes are written.
-/

namespace Roundtable.Program

/-- The reason of a failed access to a file. -/
def faultOf : IO.Error → FileFault
  | .noFileOrDirectory .. | .noSuchThing .. => .notFound
  | .alreadyExists .. => .exists
  | .permissionDenied .. => .accessDenied
  | .inappropriateType _ code reason =>
    if code = 20 then .notDirectory else if code = 21 then .isDirectory else .other reason
  | .invalidArgument _ code reason => if code = 36 then .nameTooLong else .other reason
  | error => .other (toString error)

/-- The text of a file on the disk. -/
def readText (path : String) : IO (Except FileFault String) := do
  try
    match String.fromUTF8? (← IO.FS.readBinFile path) with
    | some text => return .ok text
    | none => return .error .notText
  catch error => return .error (faultOf error)

/-- Saves a text on the disk. -/
def saveText (path text : String) : IO (Except SaveFault Unit) := do
  let parent := (Files.parent? path).getD ""
  try
    if parent ≠ "" then IO.FS.createDirAll parent
  catch error => return .error (.directory parent (faultOf error))
  try
    IO.FS.writeFile path text
    return .ok ()
  catch error => return .error (.writing path (faultOf error))

/-- The answer of the disk to a demand. -/
def answer : Demand → IO Answered
  | .nothing => return {}
  | .read path => do
    let content ← readText path
    let found := match content with
      | .error .notFound | .error .notDirectory | .error .nameTooLong => false
      | _ => true
    return { found, content }
  | .save path text => return { saved := ← saveText path text }

/-- The time on the wall. -/
def now : IO Moment := do
  let date ← Std.Time.PlainDateTime.now
  return ⟨date.toWallTime.toNanoseconds.val⟩

/-- The next piece of the input, up to its line feed. -/
partial def readPiece (input : IO.FS.Stream) (piece : ByteArray) : IO ByteArray := do
  let bytes ← input.read 1
  if bytes.isEmpty then return piece
  let piece := piece ++ bytes
  if bytes.get! 0 = 10 then return piece else readPiece input piece

/-- What reading the input gives. -/
def read (input : IO.FS.Stream) : IO Read := do
  let piece ← readPiece input .empty
  return if piece.isEmpty then .endOfInput else .ofPiece piece

/-- Carries out an activity and shows what it wrote. -/
def carryOut {ε α : Type} (session : Session) (answered : Answered)
    (activity : Activity Answered ε α) : IO (Except ε α × Session) := do
  let (result, world) := match activity ⟨session, answered, .unbounded⟩ with
    | .ok value world => (Except.ok value, world)
    | .error fault world => (Except.error fault, world)
  let output ← IO.getStdout
  output.write world.output.written
  output.flush
  return (result, world.session)

/-- Tells why the session broke off. -/
def fail (message : String) : IO UInt32 := do
  (← IO.getStderr).putStr (CommandLine.errorLine message)
  return 1

/-- Reads and handles lines until one ends the session. -/
partial def loop (session : Session) : IO UInt32 := do
  let (shown, session) ← carryOut session {} (Session.showPrompt true)
  if let .error fault := shown then return ← fail fault.message
  let next ← read (← IO.getStdin)
  let answered ← match next with
    | .line text => answer (session.demand text)
    | _ => pure {}
  let (handled, session) ← carryOut session answered (Session.handleRead (← now) next)
  match handled with
  | .error fault => fail fault.message
  | .ok .continue => loop session
  | .ok .terminate => return 0

/-- A session from its start to its end. -/
def runSession (config : Config) : IO UInt32 := do
  let answered ← match config.bootstrap with
    | some path => answer (.read path)
    | none => pure {}
  let (begun, session) ← carryOut (.fresh config) answered Session.begin
  if let .error fault := begun then return ← fail fault.message
  let (_, session) ← carryOut session {}
    (Session.writeLine session.banner : Activity Answered OutputFault Unit)
  loop session

end Roundtable.Program

def main (arguments : List String) : IO UInt32 := do
  let home := (← IO.getEnv "HOME").filter (· ≠ "")
  match Roundtable.CommandLine.Request.ofArguments home arguments with
  | .session config => Roundtable.Program.runSession config
  | .help text => do
    (← IO.getStdout).putStr text
    return 0
  | .refuse text => do
    (← IO.getStderr).putStr text
    return 1
