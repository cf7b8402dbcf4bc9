import Roundtable.Script.Evaluation
/-!
Running the text of a script. A submission that is one expression has a value to show, unless that
is none; every other text, and every script file, runs as a block of statements.
-/

namespace Roundtable.Script

/-- The bindings that a session starts with: its name and the two live views. -/
def Bindings.seeded (sessionName : String) : Bindings :=
  ((∅ : Bindings).insert "session_name" (.str sessionName)).insert "joined" .players
    |>.insert "history" .history

/-- A machine with these bindings and no lists. -/
def Machine.fresh (bindings : Bindings) (output : Output) : Machine :=
  ⟨bindings, .empty, output⟩

/-- The tokens of a source. -/
def readTokens (source : String) : Except ScriptFault (List Token) :=
  (tokensOf source).mapError .lexical

/-- The program of a source. -/
def readProgram (source : String) : Except ScriptFault (List Statement) := do
  (Statement.ofTokens (← readTokens source)).mapError .syntactic

variable {ω : Type}

namespace Execution

/-- A fault of running as a fault of the script. -/
def asScript {α : Type} (execution : ExecutionOn ω RuntimeFault α) : ExecutionOn ω ScriptFault α :=
  fun machine =>
    match execution machine with
    | .ok value machine => .ok value machine
    | .error fault machine => .error (.runtime fault) machine

/-- What does not depend on the machine. -/
def ofExcept {ε α : Type} : Except ε α → ExecutionOn ω ε α
  | .ok value => pure value
  | .error fault => throw fault

end Execution

/-- Runs a source as a block of statements. What ran before a fault stays done. -/
def executeBlock [Sink ω] (room : Room) (source : String) : ExecutionOn ω ScriptFault Unit := do
  let program ← Execution.ofExcept (readProgram source)
  Execution.asScript (run room program)

/-- Runs a source, as an expression if it is one, and gives the value to show. -/
def executeSubmission [Sink ω] (room : Room) (source : String) :
    ExecutionOn ω ScriptFault (Option Value) := do
  let tokens ← Execution.ofExcept (readTokens source)
  match Expr.ofTokens tokens with
  | .ok expr =>
    let value ← Execution.asScript (Execution.evaluate room expr)
    return if value = .none then none else some value
  | .error _ =>
    let program ← Execution.ofExcept ((Statement.ofTokens tokens).mapError .syntactic)
    Execution.asScript (run room program)
    return none

end Roundtable.Script
