import Roundtable.Session.Turn
/-!
A whole session: the banner, then a line after another until one ends it or the input does. The
input is a list of what the reads give; when the list is used up the input is at its end.
-/

namespace Roundtable

inductive Read where
  | line (text : String)
  | endOfInput
  | interrupted
  /-- The line is not encoded as UTF-8. -/
  | undecodable
  deriving DecidableEq, Repr

inductive RunFault where
  | output (fault : OutputFault)
  | input (fault : FileFault)
  deriving DecidableEq, Repr

def RunFault.message : RunFault → String
  | .output fault => fault.message
  | .input fault => fault.message

/-- The pieces of the input up to each line feed, which belongs to its piece, and what follows the
last one unless it is empty. `piece` holds the beginning of the first piece. -/
def inputPieces (piece : ByteArray) : List UInt8 → List ByteArray
  | [] => if piece.isEmpty then [] else [piece]
  | byte :: rest =>
    if byte = 10 then piece.push byte :: inputPieces .empty rest
    else inputPieces (piece.push byte) rest

/-- A line without the line feeds and carriage returns at its end. -/
def chompLine (line : String) : String :=
  String.ofList (line.toList.reverse.dropWhile fun c => c = '\n' || c = '\r').reverse

/-- What reading one piece of the input gives. -/
def Read.ofPiece (piece : ByteArray) : Read :=
  match String.fromUTF8? piece with
  | some text => .line (chompLine text)
  | none => .undecodable

/-- What reading the input line by line gives. -/
def readsOf (input : ByteArray) : List Read :=
  (inputPieces .empty input.toList).map .ofPiece

/-- The clock of a session: the moment at which each read is made. -/
abbrev Clock := Nat → Moment

namespace Session

variable {σ ω : Type}

def farewell : String := "Exiting. See you next time!"

/-- Something that only the output can break off. -/
def orOutputFault {α : Type} (activity : ActivityOn ω σ OutputFault α) : ActivityOn ω σ RunFault α :=
  fun world =>
    match activity world with
    | .ok value world => .ok value world
    | .error fault world => .error (.output fault) world

/-- Shows the prompt, if the source of the input does not show it itself. -/
def showPrompt [Sink ω] (prompted : Bool) : ActivityOn ω σ RunFault Unit := do
  if prompted then
    orOutputFault (write (← get).session.prompt)

def finish [Sink ω] : ActivityOn ω σ RunFault Unit := do
  orOutputFault (writeLine "")
  orOutputFault (writeLine farewell)
  update fun session => { session with phase := .terminated }

/-- Handles what one read gives, and says whether to read on. -/
def handleRead [FileStore σ] [Sink ω] (now : Moment) : Read → ActivityOn ω σ RunFault Signal
  | .line text => orOutputFault (handleLine now text)
  | .undecodable => throw (.input .notText)
  | .endOfInput | .interrupted => do
    finish
    return .terminate

/-- Handles the reads from number `count` on, until one ends the session. -/
def handleReads [FileStore σ] [Sink ω] (clock : Clock) (prompted : Bool) (count : Nat) :
    List Read → ActivityOn ω σ RunFault Unit
  | [] => do
    showPrompt prompted
    let _ ← handleRead (clock count) .endOfInput
  | read :: rest => do
    showPrompt prompted
    match ← handleRead (clock count) read with
    | .continue => handleReads clock prompted (count + 1) rest
    | .terminate => return ()

/-- Runs a session that has begun. `prompted` says whether the session shows the prompt. -/
def runWith [FileStore σ] [Sink ω] (clock : Clock) (prompted : Bool) (reads : List Read) :
    ActivityOn ω σ RunFault Unit := do
  orOutputFault (writeLine (← get).session.banner)
  if (← get).session.phase = .running then
    handleReads clock prompted 0 reads

end Session

end Roundtable
