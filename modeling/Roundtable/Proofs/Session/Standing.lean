import Roundtable.Proofs.Script.Growth
import Roundtable.Session.Turn
/-!
What one line of input can change in a session besides what scripts share. Scripts and files never
reach the roster, the journal or the phase, and every command changes them before it writes, so the
change depends on the line alone and is the same when the output breaks the line off.
-/

namespace Roundtable

open Script

/-- What a session knows apart from what its scripts share. -/
structure Standing where
  config : Config
  roster : Roster
  journal : Journal
  phase : Phase

namespace Standing

/-- Who a submission is attributed to. -/
def author (standing : Standing) : String :=
  standing.roster.active.getD standing.config.placeholder

/-- The standing after a submission, whatever comes of it. -/
def record (standing : Standing) (now : Moment) (code : String) : Standing :=
  { standing with
    journal := standing.journal.record standing.author code now
    roster := standing.roster.recordTurn standing.author }

/-- The standing after a command. Those that only report or run a file change nothing. -/
def obey (standing : Standing) : Command → Standing
  | .join name => { standing with roster := standing.roster.join name }
  | .switch name => { standing with roster := standing.roster.switchTo name }
  | .leave name => { standing with roster := standing.roster.leave name }
  | .reset => { standing with journal := ∅, roster := standing.roster.activateFirst }
  | .quit => { standing with phase := .terminated }
  | _ => standing

/-- The standing after a line. -/
def after (standing : Standing) (now : Moment) : Line → Standing
  | .blank => standing
  | .command command => standing.obey command
  | .submission code => standing.record now code

theorem config_after (standing : Standing) (now : Moment) (line : Line) :
    (standing.after now line).config = standing.config := by
  cases line with
  | command command => cases command <;> simp only [after, obey]
  | _ => rfl

end Standing

/-- The signal that a line is answered with, if the output does not break it off. -/
def Line.signal : Line → Signal
  | .command .quit => .terminate
  | _ => .continue

namespace Session

variable {σ ω ε α β : Type}

def standing (session : Session) : Standing :=
  ⟨session.config, session.roster, session.journal, session.phase⟩

/-- The standing of the second world is that of the first after the change. -/
def Moves (change : Standing → Standing) (before after : World σ ω) : Prop :=
  after.session.standing = change before.session.standing

/-- An activity that leaves the standing as it is. -/
abbrev KeepsStanding (activity : ActivityOn ω σ ε α) : Prop :=
  Leads (Moves id) activity

theorem keepsStanding_pure (value : α) : KeepsStanding (pure value : ActivityOn ω σ ε α) :=
  fun _ => rfl

theorem keepsStanding_throw (fault : ε) : KeepsStanding (throw fault : ActivityOn ω σ ε α) :=
  fun _ => rfl

/-- What follows a change and keeps the standing does not matter, not even whether it is reached. -/
theorem moves_bind {change : Standing → Standing} {activity : ActivityOn ω σ ε α}
    {next : α → ActivityOn ω σ ε β} (hactivity : Leads (Moves change) activity)
    (hnext : ∀ value, KeepsStanding (next value)) :
    Leads (Moves change) (activity >>= next) :=
  leads_bind_of_comp hactivity hnext id fun hfirst hsecond => hsecond.trans hfirst

theorem moves_update {change : Standing → Standing} {edit : Session → Session}
    (hedit : ∀ session, (edit session).standing = change session.standing) :
    Leads (Moves change) (update edit : ActivityOn ω σ ε Unit) :=
  fun world => hedit world.session

theorem keepsStanding_runScript (script : Room → ExecutionOn ω ScriptFault α) :
    KeepsStanding (runScript script : ActivityOn ω σ ε (Except ScriptFault α)) := by
  rintro ⟨⟨config, roster, journal, bindings, heap, phase⟩, files, output⟩
  dsimp only [runScript]
  split <;> rfl

theorem keepsStanding_write [Sink ω] (text : String) :
    KeepsStanding (write text : ActivityOn ω σ OutputFault Unit) := by
  rintro ⟨session, files, output⟩
  dsimp only [write]
  split <;> rfl

theorem keepsStanding_writeLines [Sink ω] (lines : List String) :
    KeepsStanding (writeLines lines : ActivityOn ω σ OutputFault Unit) := by
  induction lines with
  | nil => exact keepsStanding_pure ()
  | cons line rest ih => exact moves_bind (keepsStanding_write _) fun _ => ih

theorem submit_moves [Sink ω] (now : Moment) (code : String) :
    Leads (Moves (·.record now code)) (submit now code : ActivityOn ω σ OutputFault Unit) := by
  refine moves_bind (moves_update fun session => rfl) fun _ => ?_
  apply moves_bind (keepsStanding_runScript _)
  intro result
  split
  · exact keepsStanding_pure ()
  · exact leads_get_bind fun seen => keepsStanding_write _
  · exact keepsStanding_write _

section Commands

variable [FileStore σ] [Sink ω]

theorem keepsStanding_loadFile (path : String) :
    KeepsStanding (loadFile path : ActivityOn ω σ ε (Except LoadFault Unit)) := by
  unfold loadFile
  apply leads_get_bind
  intro seen
  apply leads_get_bind
  intro again
  split
  · exact keepsStanding_pure _
  · apply moves_bind (keepsStanding_runScript _)
    exact fun result => keepsStanding_pure _

theorem keepsStanding_load (path : String) :
    KeepsStanding (load path : ActivityOn ω σ OutputFault Unit) := by
  apply moves_bind (keepsStanding_loadFile path)
  intro result
  split
  · exact keepsStanding_pure ()
  · exact keepsStanding_write _

theorem keepsStanding_saveHistory (path : String) :
    KeepsStanding (saveHistory path : ActivityOn ω σ OutputFault Unit) := by
  unfold saveHistory
  apply leads_get_bind
  intro seen
  apply leads_get_bind
  intro again
  refine moves_bind (fun world => rfl) fun result => ?_
  split
  · exact keepsStanding_write _
  · exact keepsStanding_write _

theorem runCommand_moves (command : Command) :
    Leads (Moves (·.obey command)) (runCommand command : ActivityOn ω σ OutputFault Signal) := by
  cases command with
  | join | switch | leave =>
      refine moves_bind (moves_update fun session => ?_) fun _ => keepsStanding_pure _
      simp only [Standing.obey, standing]
  | players | history =>
      apply leads_get_bind
      intro seen
      exact moves_bind (keepsStanding_writeLines _) fun _ => keepsStanding_pure _
  | load path => exact moves_bind (keepsStanding_load path) fun _ => keepsStanding_pure _
  | save path => exact moves_bind (keepsStanding_saveHistory path) fun _ => keepsStanding_pure _
  | reset =>
      refine moves_bind (moves_update fun _ => rfl) fun _ => ?_
      exact moves_bind (keepsStanding_write _) fun _ => keepsStanding_pure _
  | quit => exact moves_bind (moves_update fun _ => rfl) fun _ => keepsStanding_pure _
  | help | unknown =>
      apply leads_get_bind
      intro seen
      exact moves_bind (keepsStanding_write _) fun _ => keepsStanding_pure _

def carryOut (now : Moment) : Line → ActivityOn ω σ OutputFault Signal
  | .blank => pure .continue
  | .command command => runCommand command
  | .submission code => submit now code >>= fun _ => pure .continue

theorem handleLine_eq (now : Moment) (text : String) (world : World σ ω) :
    handleLine now text world =
      carryOut now (Line.ofText world.session.config.marker text) world := by
  unfold handleLine
  rw [get_bind_apply]
  generalize Line.ofText world.session.config.marker text = line
  cases line <;> rfl

theorem carryOut_moves (now : Moment) (line : Line) :
    Leads (Moves (·.after now line)) (carryOut now line : ActivityOn ω σ OutputFault Signal) := by
  cases line with
  | blank => exact keepsStanding_pure _
  | command command => exact runCommand_moves command
  | submission code => exact moves_bind (submit_moves now code) fun _ => keepsStanding_pure _

/-- The standing after a line is decided by the line alone, also if it was broken off. -/
theorem handleLine_standing (now : Moment) (text : String) (world : World σ ω) :
    (stateAfter (handleLine now text world)).session.standing =
      world.session.standing.after now (Line.ofText world.session.config.marker text) := by
  rw [handleLine_eq]
  exact carryOut_moves now _ world

end Commands

end Session

end Roundtable
