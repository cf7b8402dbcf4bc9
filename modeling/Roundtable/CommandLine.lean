import Roundtable.Number.Numeral
import Roundtable.Session.Run
/-!
The command line of the program: its arguments give the settings of a session, which then reads the
standard input to its end. Arguments are taken from the left, and the first that is wrong decides
the error.
-/

namespace Roundtable.CommandLine

/-- The options that take a value. -/
inductive ValueOption where
  | session | bootstrap | historyWindow
  deriving DecidableEq, Repr

def ValueOption.flag : ValueOption → String
  | .session => "--session"
  | .bootstrap => "--bootstrap"
  | .historyWindow => "--history-window"

def ValueOption.ofFlag? (flag : String) : Option ValueOption :=
  [.session, .bootstrap, .historyWindow].find? fun option => ValueOption.flag option = flag

/-- Why a value of an option is refused. -/
inductive ValueFault where
  | duplicate
  | emptyNumber
  | invalidDigit
  | tooLarge
  deriving DecidableEq, Repr

def ValueFault.message : ValueFault → String
  | .duplicate => "duplicate values provided"
  | .emptyNumber => "cannot parse integer from empty string"
  | .invalidDigit => "invalid digit found in string"
  | .tooLarge => "number too large to fit in target type"

/-- Why the arguments are refused. -/
inductive UsageFault where
  | unrecognized (argument : String)
  | noValue (option : ValueOption)
  | badValue (option : ValueOption) (value : String) (fault : ValueFault)
  /-- An option behind the request for help. -/
  | optionAfterHelp
  deriving DecidableEq, Repr

def UsageFault.message : UsageFault → String
  | .unrecognized argument => "Unrecognized argument: " ++ argument ++ "\n"
  | .noValue option => "No value provided for option '" ++ option.flag ++ "'.\n"
  | .badValue option value fault =>
    "Error parsing option '" ++ option.flag ++ "' with value '" ++ value ++ "': " ++ fault.message
      ++ "\n"
  | .optionAfterHelp => "Trailing arguments are not allowed after \x60help\x60."

/-- The values that options were given. -/
structure Options where
  session : Option String := none
  bootstrap : Option String := none
  historyWindow : Option Nat := none
  verbose : Bool := false
  deriving DecidableEq, Repr

/-- The value of further digits of a number below `2 ^ 64`. The first digit that is none, or that
makes the number too large, decides. -/
def readDigits (value : Nat) : List Char → Except ValueFault Nat
  | [] => .ok value
  | c :: rest =>
    if !c.isDigit then .error .invalidDigit
    else
      let next := 10 * value + (c.toNat - '0'.toNat)
      if next < 18446744073709551616 then readDigits next rest else .error .tooLarge

/-- A count of 64 bits. A plus may stand before it. -/
def readCount (text : String) : Except ValueFault Nat :=
  match text.toList with
  | [] => .error .emptyNumber
  | '+' :: c :: rest => readDigits 0 (c :: rest)
  | digits => readDigits 0 digits

/-- The options with the value of one more. Each can be given once. -/
def Options.set (options : Options) (option : ValueOption) (value : String) :
    Except ValueFault Options :=
  match option with
  | .session =>
    if options.session.isSome then .error .duplicate
    else .ok { options with session := some value }
  | .bootstrap =>
    if options.bootstrap.isSome then .error .duplicate
    else .ok { options with bootstrap := some value }
  | .historyWindow =>
    if options.historyWindow.isSome then .error .duplicate
    else do return { options with historyWindow := some (← readCount value) }

/-- Reads arguments behind those that gave `options`. `help` says whether help was asked for, and
`ended` whether the end of the options was marked; the result is nothing where help is to be
shown. -/
def readArguments (help ended : Bool) (options : Options) :
    List String → Except UsageFault (Option Options)
  | [] => .ok (if help then none else some options)
  | argument :: rest =>
    if ended then .error (.unrecognized argument)
    else if argument = "--help" ∨ argument = "help" then readArguments true ended options rest
    else if argument = "--" then readArguments help true options rest
    else if argument.toList.head? ≠ some '-' then .error (.unrecognized argument)
    else if help then .error .optionAfterHelp
    else if argument = "-v" ∨ argument = "--verbose" then
      readArguments help ended { options with verbose := true } rest
    else
      match ValueOption.ofFlag? argument, rest with
      | none, _ => .error (.unrecognized argument)
      | some option, [] => .error (.noValue option)
      | some option, value :: rest =>
        match options.set option value with
        | .error fault => .error (.badValue option value fault)
        | .ok options => readArguments help ended options rest

/-- The settings that the options give. -/
def Options.toConfig (options : Options) (home : Option String) : Config :=
  let standard : Config := {}
  { standard with
    sessionName := options.session.getD standard.sessionName
    bootstrap := options.bootstrap
    historyWindow := options.historyWindow.getD standard.historyWindow
    home }

/-- What the arguments ask for. -/
inductive Request where
  | session (config : Config)
  /-- A text for the standard output. -/
  | help (text : String)
  /-- A text for the error output, after which the program fails. -/
  | refuse (text : String)

/-- The description of the arguments. -/
def helpText : String :=
  "\n".intercalate [
    "Usage: campfire [--session <session>] [--bootstrap <bootstrap>] "
      ++ "[--history-window <history-window>] [-v]",
    "",
    "Collaborative REPL where everyone takes turns in one shared scripting context.",
    "",
    "Options:",
    "  --session         name for the session; displayed in the welcome banner.",
    "  --bootstrap       optional script to run before the session starts.",
    "  --history-window  number of entries /history shows.",
    "  -v, --verbose     log debug events to stderr.",
    "  --help, help      display usage information",
    "",
    ""]

def Request.ofArguments (home : Option String) (arguments : List String) : Request :=
  match readArguments false false {} arguments with
  | .ok (some options) => .session (options.toConfig home)
  | .ok none => .help helpText
  | .error fault =>
    .refuse (fault.message ++ "\nRun campfire --help for more information.\n")

/-- What the program leaves behind when it ends. -/
structure Ending (σ : Type) where
  exitCode : Nat
  output : ByteArray
  errors : String
  files : σ

/-- The error output of a session that broke off. -/
def errorLine (message : String) : String :=
  "Error: " ++ message ++ "\n"

/-- A session on an input, from its start to its end. -/
def runSession {σ : Type} [FileStore σ] (config : Config) (clock : Clock) (input : ByteArray)
    (files : σ) : Ending σ :=
  match Session.begin ⟨.fresh config, files, Output.unbounded⟩ with
  | .error fault ⟨_, files, output⟩ => ⟨1, output.written, errorLine fault.message, files⟩
  | .ok _ world =>
    match Session.runWith clock true (readsOf input) world with
    | .error fault ⟨_, files, output⟩ => ⟨1, output.written, errorLine fault.message, files⟩
    | .ok _ ⟨_, files, output⟩ => ⟨0, output.written, "", files⟩

/-- The program: its arguments, its input and its files give an ending. -/
def run {σ : Type} [FileStore σ] (home : Option String) (arguments : List String) (clock : Clock)
    (input : ByteArray) (files : σ) : Ending σ :=
  match Request.ofArguments home arguments with
  | .help text => ⟨0, text.toUTF8, "", files⟩
  | .refuse text => ⟨1, .empty, text, files⟩
  | .session config => runSession config clock input files

end Roundtable.CommandLine
