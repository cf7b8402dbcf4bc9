import Roundtable.Proofs.Session.Standing
/-!
How a line is answered. A line that the output does not break off is answered with the signal of its
kind, so only a quit command ends a session; and a line is broken off only by a write of its own
that has failed. A failed write inside a script is not yet such a break: the script ends in a fault,
and the session goes on to report it.
-/

namespace Roundtable.Session

open Script

variable {σ ω ε α β : Type}

/-- The activity gives this value whenever it is not broken off. -/
def Gives (activity : ActivityOn ω σ ε α) (value : α) : Prop :=
  ∀ world given after, activity world = .ok given after → given = value

theorem gives_pure (value : α) : Gives (pure value : ActivityOn ω σ ε α) value := by
  intro world given after hrun
  cases hrun
  rfl

theorem gives_bind {activity : ActivityOn ω σ ε α} {next : α → ActivityOn ω σ ε β} {value : β}
    (hnext : ∀ middle, Gives (next middle) value) : Gives (activity >>= next) value := by
  intro world given after hrun
  obtain ⟨middle, between, -, hlast⟩ := bind_eq_ok.1 hrun
  exact hnext middle between given after hlast

section Writing

variable [Sink ω]

/-- The activity reaches its output by writing alone, and is broken off only when the last of its
writes has failed. -/
def BreaksByWriting (activity : ActivityOn ω σ ε α) : Prop :=
  Leads (fun before after => Sink.Reaches before.output after.output) activity ∧
    ∀ world fault after, activity world = .error fault after →
      Sink.Fails world.output after.output

/-- What cannot be broken off has only to say how it reaches its output. -/
theorem breaksByWriting_of_ok {activity : ActivityOn ω σ ε α}
    (hok : ∀ world, ∃ value after, activity world = .ok value after ∧
      Sink.Reaches world.output after.output) : BreaksByWriting activity := by
  constructor
  · intro world
    obtain ⟨value, after, hrun, hreach⟩ := hok world
    rw [hrun]
    exact hreach
  · intro world fault after hbroken
    obtain ⟨value, other, hrun, _⟩ := hok world
    rw [hrun] at hbroken
    cases hbroken

theorem breaksByWriting_pure (value : α) :
    BreaksByWriting (pure value : ActivityOn ω σ ε α) :=
  breaksByWriting_of_ok fun world => ⟨value, world, rfl, Sink.reaches_refl world.output⟩

theorem breaksByWriting_update (edit : Session → Session) :
    BreaksByWriting (update edit : ActivityOn ω σ ε Unit) :=
  breaksByWriting_of_ok fun world => ⟨(), _, rfl, Sink.reaches_refl world.output⟩

theorem breaksByWriting_bind {activity : ActivityOn ω σ ε α} {next : α → ActivityOn ω σ ε β}
    (hactivity : BreaksByWriting activity) (hnext : ∀ value, BreaksByWriting (next value)) :
    BreaksByWriting (activity >>= next) := by
  refine ⟨leads_bind (fun hfirst hsecond => hfirst.trans hsecond) hactivity.1
    fun value => (hnext value).1, ?_⟩
  intro world fault after hbroken
  rcases bind_eq_error.1 hbroken with hfirst | ⟨value, middle, hfirst, hlast⟩
  · exact hactivity.2 world fault after hfirst
  · have hreach := hactivity.1 world
    rw [hfirst] at hreach
    exact ((hnext value).2 middle fault after hlast).of_reaches hreach

theorem breaksByWriting_get_bind {next : World σ ω → ActivityOn ω σ ε β}
    (hnext : ∀ seen, BreaksByWriting (next seen)) : BreaksByWriting (get >>= next) := by
  refine ⟨leads_get_bind fun seen => (hnext seen).1, ?_⟩
  intro world fault after hbroken
  exact (hnext world).2 world fault after hbroken

theorem breaksByWriting_write (text : String) :
    BreaksByWriting (write text : ActivityOn ω σ OutputFault Unit) := by
  constructor
  · rintro ⟨session, files, output⟩
    have hreach := Sink.reaches_write output text
    dsimp only [write]
    rcases hwrite : Sink.write output text with ⟨sink, _ | _⟩
    all_goals
      rw [hwrite] at hreach
      exact hreach
  · rintro ⟨session, files, output⟩ fault after hbroken
    dsimp only [write] at hbroken
    rcases hwrite : Sink.write output text with ⟨sink, _ | _⟩
    all_goals
      rw [hwrite] at hbroken
      cases hbroken
    exact ⟨output, text, Sink.reaches_refl output, hwrite⟩

theorem breaksByWriting_writeLines (lines : List String) :
    BreaksByWriting (writeLines lines : ActivityOn ω σ OutputFault Unit) := by
  induction lines with
  | nil => exact breaksByWriting_pure ()
  | cons line rest ih => exact breaksByWriting_bind (breaksByWriting_write _) fun _ => ih

/-- The fault of a script is a result for the session, so a script never breaks it off. -/
theorem breaksByWriting_runScript {script : Room → ExecutionOn ω ScriptFault α}
    (hscript : ∀ room, (script room).OnlyWrites) :
    BreaksByWriting (runScript script : ActivityOn ω σ ε (Except ScriptFault α)) := by
  apply breaksByWriting_of_ok
  rintro ⟨⟨config, roster, journal, bindings, heap, phase⟩, files, output⟩
  have hreach := hscript ⟨roster, journal⟩ ⟨bindings, heap, output⟩
  dsimp only [runScript]
  cases hrun : script ⟨roster, journal⟩ ⟨bindings, heap, output⟩ with
  | ok value machine =>
      rw [hrun] at hreach
      exact ⟨_, _, rfl, hreach⟩
  | error fault machine =>
      rw [hrun] at hreach
      exact ⟨_, _, rfl, hreach⟩

theorem breaksByWriting_submit (now : Moment) (code : String) :
    BreaksByWriting (submit now code : ActivityOn ω σ OutputFault Unit) := by
  apply breaksByWriting_bind (breaksByWriting_update _)
  intro _
  apply breaksByWriting_bind
    (breaksByWriting_runScript fun room => executeSubmission_onlyWrites room code)
  intro result
  split
  · exact breaksByWriting_pure ()
  · exact breaksByWriting_get_bind fun seen => breaksByWriting_write _
  · exact breaksByWriting_write _

variable [FileStore σ]

theorem breaksByWriting_load (path : String) :
    BreaksByWriting (load path : ActivityOn ω σ OutputFault Unit) := by
  have hfile : BreaksByWriting
      (loadFile path : ActivityOn ω σ OutputFault (Except LoadFault Unit)) := by
    unfold loadFile
    apply breaksByWriting_get_bind
    intro seen
    apply breaksByWriting_get_bind
    intro again
    split
    · exact breaksByWriting_pure _
    · apply breaksByWriting_bind
        (breaksByWriting_runScript fun room => executeBlock_onlyWrites room _)
      exact fun result => breaksByWriting_pure _
  apply breaksByWriting_bind hfile
  intro result
  split
  · exact breaksByWriting_pure ()
  · exact breaksByWriting_write _

theorem breaksByWriting_saveHistory (path : String) :
    BreaksByWriting (saveHistory path : ActivityOn ω σ OutputFault Unit) := by
  unfold saveHistory
  apply breaksByWriting_get_bind
  intro seen
  apply breaksByWriting_get_bind
  intro again
  have hsave := fun world : World σ ω => Sink.reaches_refl world.output
  refine breaksByWriting_bind (breaksByWriting_of_ok fun world => ⟨_, _, rfl, hsave world⟩) ?_
  intro result
  split
  · exact breaksByWriting_write _
  · exact breaksByWriting_write _

theorem breaksByWriting_runCommand (command : Command) :
    BreaksByWriting (runCommand command : ActivityOn ω σ OutputFault Signal) := by
  have hreport (text : String) : BreaksByWriting (do
      writeLine text
      return .continue : ActivityOn ω σ OutputFault Signal) :=
    breaksByWriting_bind (breaksByWriting_write _) fun _ => breaksByWriting_pure _
  have hreports (lines : List String) : BreaksByWriting (do
      writeLines lines
      return .continue : ActivityOn ω σ OutputFault Signal) :=
    breaksByWriting_bind (breaksByWriting_writeLines _) fun _ => breaksByWriting_pure _
  have hedit (edit : Session → Session) (signal : Signal) : BreaksByWriting (do
      update edit
      return signal : ActivityOn ω σ OutputFault Signal) :=
    breaksByWriting_bind (breaksByWriting_update _) fun _ => breaksByWriting_pure _
  cases command with
  | join | switch | leave | quit => exact hedit _ _
  | players | history => exact breaksByWriting_get_bind fun seen => hreports _
  | load path =>
      exact breaksByWriting_bind (breaksByWriting_load path) fun _ => breaksByWriting_pure _
  | save path =>
      exact breaksByWriting_bind (breaksByWriting_saveHistory path) fun _ =>
        breaksByWriting_pure _
  | reset => exact breaksByWriting_bind (breaksByWriting_update _) fun _ => hreport _
  | help | unknown => exact breaksByWriting_get_bind fun seen => hreport _

theorem breaksByWriting_carryOut (now : Moment) (line : Line) :
    BreaksByWriting (carryOut now line : ActivityOn ω σ OutputFault Signal) := by
  cases line with
  | blank => exact breaksByWriting_pure _
  | command command => exact breaksByWriting_runCommand command
  | submission code =>
      exact breaksByWriting_bind (breaksByWriting_submit now code) fun _ => breaksByWriting_pure _

/-- A line is broken off only when the last of its own writes has failed. -/
theorem handleLine_fails {now : Moment} {text : String} {world after : World σ ω}
    {fault : OutputFault} (hbroken : handleLine now text world = .error fault after) :
    Sink.Fails world.output after.output := by
  rw [handleLine_eq] at hbroken
  exact (breaksByWriting_carryOut now _).2 world fault after hbroken

theorem runCommand_gives (command : Command) :
    Gives (runCommand command : ActivityOn ω σ OutputFault Signal)
      (Line.command command).signal := by
  cases command with
  | reset | players | history | help | unknown =>
      exact gives_bind fun _ => gives_bind fun _ => gives_pure _
  | _ => exact gives_bind fun _ => gives_pure _

theorem handleLine_gives {now : Moment} {text : String} {world after : World σ ω}
    {signal : Signal} (hrun : handleLine now text world = .ok signal after) :
    signal = (Line.ofText world.session.config.marker text).signal := by
  rw [handleLine_eq] at hrun
  revert hrun
  cases Line.ofText world.session.config.marker text with
  | blank => exact gives_pure _ world signal after
  | command command => exact runCommand_gives command world signal after
  | submission code => exact gives_bind (fun _ => gives_pure _) world signal after

/-- The lines answered with the end of the session are the quit commands, which write nothing and
so cannot be broken off. -/
theorem handleLine_terminates_iff (now : Moment) (text : String) (world : World σ ω) :
    (∃ after, handleLine now text world = .ok .terminate after) ↔
      Line.ofText world.session.config.marker text = .command .quit := by
  constructor
  · rintro ⟨after, hrun⟩
    have hsignal := handleLine_gives hrun
    revert hsignal
    unfold Line.signal
    split
    · exact fun _ => ‹_›
    · exact fun hsignal => by cases hsignal
  · intro hquit
    rw [handleLine_eq, hquit]
    exact ⟨_, rfl⟩

end Writing

end Roundtable.Session
