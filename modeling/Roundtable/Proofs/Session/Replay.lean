import Mathlib.Data.List.DropRight
import Roundtable.Proofs.Command
import Roundtable.Proofs.Roster.Turns
import Roundtable.Proofs.Session.Answer
import Roundtable.Session.Demand
/-!
A session as its lines tell it. Which submissions the journal holds, who takes part, how often each
name had a turn and whether the session has ended can all be read off the lines alone: replay those
that join, switch, leave and reset on an empty roster, and count. Nothing a script, a file or a
failing output does can make the session differ from this account.
-/

namespace Roundtable

open Script

/-- What a line does to a roster that counts no turns. -/
def Roster.follow (roster : Roster) : Line → Roster
  | .command (.join name) => roster.join name
  | .command (.switch name) => roster.switchTo name
  | .command (.leave name) => roster.leave name
  | .command .reset => roster.activateFirst
  | _ => roster

/-- A line at its place in a session. -/
structure Step where
  /-- The roster that the lines before this one lead to. -/
  roster : Roster
  moment : Moment
  text : String
  line : Line

namespace Step

/-- Who would answer for a submission at this place. -/
def author (placeholder : String) (step : Step) : String :=
  step.roster.active.getD placeholder

/-- The entry that the journal owes to the line: its trimmed text, if it is a submission. -/
def recorded? (placeholder : String) (step : Step) : Option Entry :=
  match step.line with
  | .submission _ => some ⟨step.author placeholder, Text.trim step.text, step.moment⟩
  | _ => none

def isReset (step : Step) : Bool :=
  step.line = .command .reset

/-- Whether the line takes a name from the roster. -/
def removes (name : String) (step : Step) : Bool :=
  step.roster.isMember name && step.line = .command (.leave name)

/-- Whether the line is a submission that a name answers for. -/
def isTurnOf (placeholder name : String) (step : Step) : Bool :=
  (step.recorded? placeholder).any (·.author = name)

end Step

/-- The lines of a session at their places. -/
def stepsFrom (marker : Char) (roster : Roster) : List (Moment × String) → List Step
  | [] => []
  | (moment, text) :: rest =>
    let line := Line.ofText marker text
    ⟨roster, moment, text, line⟩ :: stepsFrom marker (roster.follow line) rest

/-- The roster that lines lead to without their submissions. -/
def replayFrom (marker : Char) (roster : Roster) (inputs : List (Moment × String)) : Roster :=
  inputs.foldl (fun roster input => roster.follow (Line.ofText marker input.2)) roster

/-- A line given to a session, with the files and the output that it finds. -/
structure Call (σ ω : Type) where
  moment : Moment
  text : String
  files : σ
  output : ω

def Call.input {σ ω : Type} (call : Call σ ω) : Moment × String :=
  (call.moment, call.text)

namespace Session

variable {σ ω : Type} [FileStore σ] [Sink ω]

def answer (session : Session) (call : Call σ ω) : EStateM.Result OutputFault (World σ ω) Signal :=
  handleLine call.moment call.text ⟨session, call.files, call.output⟩

/-- The session after calls, going on behind those that the output broke off. -/
def afterCalls (session : Session) (calls : List (Call σ ω)) : Session :=
  calls.foldl (fun session call => (stateAfter (session.answer call)).session) session

end Session

theorem stepsFrom_concat (marker : Char) (roster : Roster) (inputs : List (Moment × String))
    (input : Moment × String) :
    stepsFrom marker roster (inputs ++ [input]) = stepsFrom marker roster inputs ++
      [⟨replayFrom marker roster inputs, input.1, input.2, Line.ofText marker input.2⟩] := by
  induction inputs generalizing roster with
  | nil => rfl
  | cons first rest ih =>
      simp only [List.cons_append, stepsFrom, replayFrom, List.foldl_cons, ih]

theorem replayFrom_concat (marker : Char) (roster : Roster) (inputs : List (Moment × String))
    (input : Moment × String) :
    replayFrom marker roster (inputs ++ [input]) =
      (replayFrom marker roster inputs).follow (Line.ofText marker input.2) := by
  unfold replayFrom
  rw [List.foldl_append, List.foldl_cons, List.foldl_nil]

/-- What the steps so far and the roster replayed from them tell of a session. -/
structure Standing.Agrees (standing : Standing) (config : Config) (steps : List Step)
    (replayed : Roster) : Prop where
  config_eq : standing.config = config
  sameSeats : standing.roster.SameSeats replayed
  turnCount_eq : ∀ name, standing.roster.turnCount name =
    (steps.rtakeWhile (!·.removes name)).countP (·.isTurnOf config.placeholder name)
  entries_eq : standing.journal.entries.toList =
    (steps.rtakeWhile (!·.isReset)).filterMap (·.recorded? config.placeholder)
  terminated_iff : standing.phase = .terminated ↔ ∃ step ∈ steps, step.line = .command .quit

theorem Step.recorded?_eq_none {step : Step} {placeholder : String} (h : step.isReset) :
    step.recorded? placeholder = none := by
  have hline : step.line = .command .reset := of_decide_eq_true h
  unfold recorded?
  rw [hline]

theorem Step.isTurnOf_eq_false {step : Step} {placeholder name : String} (h : step.removes name) :
    step.isTurnOf placeholder name = false := by
  have hline : step.line = .command (.leave name) := of_decide_eq_true (Bool.and_eq_true_iff.1 h).2
  unfold isTurnOf recorded?
  rw [hline]
  rfl

namespace Standing.Agrees

variable {standing : Standing} {config : Config} {steps : List Step} {next : Step}

theorem author_eq (h : standing.Agrees config steps next.roster) :
    standing.author = next.author config.placeholder := by
  unfold Standing.author Step.author
  rw [h.sameSeats.2, h.config_eq]

theorem sameSeats_after (h : standing.Agrees config steps next.roster) :
    (standing.after next.moment next.line).roster.SameSeats (next.roster.follow next.line) := by
  cases next.line with
  | blank => exact h.sameSeats
  | submission code => exact h.sameSeats
  | command command =>
      cases command with
      | join name =>
          simp only [Standing.after, Standing.obey, Roster.follow]
          exact h.sameSeats.join name
      | switch name =>
          simp only [Standing.after, Standing.obey, Roster.follow]
          exact h.sameSeats.switchTo name
      | leave name =>
          simp only [Standing.after, Standing.obey, Roster.follow]
          exact h.sameSeats.leave name
      | reset => exact h.sameSeats.activateFirst
      | _ => exact h.sameSeats

theorem entries_after (h : standing.Agrees config steps next.roster)
    (hline : Line.ofText config.marker next.text = next.line) :
    (standing.after next.moment next.line).journal.entries.toList =
      (if next.isReset then [] else standing.journal.entries.toList) ++
        (next.recorded? config.placeholder).toList := by
  have hauthor := h.author_eq
  unfold Step.isReset Step.recorded?
  cases hnext : next.line with
  | blank => simp [Standing.after]
  | submission code =>
      rw [hnext] at hline
      simp [Standing.after, Standing.record, Journal.record, Line.code_eq_trim hline, hauthor]
  | command command =>
      cases command <;> simp [Standing.after, Standing.obey]
      rfl

theorem turnCount_after (h : standing.Agrees config steps next.roster) (name : String) :
    (standing.after next.moment next.line).roster.turnCount name =
      (if next.removes name then 0 else standing.roster.turnCount name) +
        (if next.isTurnOf config.placeholder name then 1 else 0) := by
  have hauthor := h.author_eq
  unfold Step.removes Step.isTurnOf Step.recorded?
  cases next.line with
  | blank => simp [Standing.after]
  | submission code =>
      simp [Standing.after, Standing.record, Roster.turnCount_recordTurn, hauthor]
  | command command =>
      cases command with
      | leave other =>
          simp only [Standing.after, Standing.obey, Roster.turnCount_leave, h.sameSeats.isMember]
          by_cases heq : other = name
          · simp [heq]
          · simp [heq]
      | _ => simp [Standing.after, Standing.obey]

theorem terminated_after :
    (standing.after next.moment next.line).phase = .terminated ↔
      standing.phase = .terminated ∨ next.line = .command .quit := by
  cases next.line with
  | blank => simp [Standing.after]
  | submission code => simp [Standing.after, Standing.record]
  | command command => cases command <;> simp [Standing.after, Standing.obey]

theorem step (next : Step) (h : standing.Agrees config steps next.roster)
    (hline : Line.ofText config.marker next.text = next.line) :
    (standing.after next.moment next.line).Agrees config (steps ++ [next])
      (next.roster.follow next.line) where
  config_eq := by rw [standing.config_after, h.config_eq]
  sameSeats := h.sameSeats_after
  turnCount_eq name := by
    rw [h.turnCount_after, h.turnCount_eq, List.rtakeWhile_concat]
    cases hremoves : next.removes name with
    | true => simp [Step.isTurnOf_eq_false hremoves]
    | false => simp [List.countP_singleton]
  entries_eq := by
    rw [h.entries_after hline, h.entries_eq, List.rtakeWhile_concat]
    cases hreset : next.isReset with
    | true => simp [Step.recorded?_eq_none hreset]
    | false => cases hentry : next.recorded? config.placeholder <;> simp [hentry]
  terminated_iff := by
    rw [terminated_after, h.terminated_iff]
    simp [or_and_right, exists_or]

theorem start (config : Config) :
    (Session.fresh config).standing.Agrees config [] ∅ where
  config_eq := rfl
  sameSeats := ⟨rfl, rfl⟩
  turnCount_eq name := Roster.turnCount_empty name
  entries_eq := rfl
  terminated_iff := by simp [Session.fresh, Session.standing]

end Standing.Agrees

namespace Session

variable {σ ω : Type} [FileStore σ] [Sink ω]

/-- What comes before the first line keeps a session as it was set up. -/
theorem keepsStanding_begin : KeepsStanding (begin : ActivityOn ω σ BootstrapFault Unit) := by
  apply leads_get_bind
  intro world
  split
  · exact keepsStanding_pure ()
  · unfold runBootstrap
    apply leads_get_bind
    intro seen
    split
    · apply leads_get_bind
      intro again
      split
      · exact keepsStanding_throw _
      · apply moves_bind (keepsStanding_runScript _)
        intro result
        split
        · exact keepsStanding_pure ()
        · exact keepsStanding_throw _
    · exact keepsStanding_throw _

theorem standing_answer (session : Session) (call : Call σ ω) :
    (stateAfter (session.answer call)).session.standing =
      session.standing.after call.moment (Line.ofText session.config.marker call.text) :=
  handleLine_standing call.moment call.text _

theorem standing_afterCalls_concat (session : Session) (calls : List (Call σ ω)) (call : Call σ ω) :
    (session.afterCalls (calls ++ [call])).standing =
      (session.afterCalls calls).standing.after call.moment
        (Line.ofText (session.afterCalls calls).config.marker call.text) := by
  unfold afterCalls
  rw [List.foldl_append, List.foldl_cons, List.foldl_nil, standing_answer]

/-- A session that has begun stands as it was set up. -/
theorem standing_begin {config : Config} {files : σ} {output : ω} {start : World σ ω}
    (begun : begin ⟨.fresh config, files, output⟩ = .ok () start) :
    start.session.standing = (fresh config).standing := by
  have hkeeps := keepsStanding_begin (⟨.fresh config, files, output⟩ : World σ ω)
  rw [begun] at hkeeps
  exact hkeeps

/-- The account holds after any calls, by one step for each. -/
theorem agrees_afterCalls {config : Config} {files : σ} {output : ω} {start : World σ ω}
    (begun : begin ⟨.fresh config, files, output⟩ = .ok () start) (calls : List (Call σ ω)) :
    (start.session.afterCalls calls).standing.Agrees config
      (stepsFrom config.marker ∅ (calls.map Call.input))
      (replayFrom config.marker ∅ (calls.map Call.input)) := by
  -- On the calls from the last one back, since what counts is where the last reset or leave was.
  induction calls using List.reverseRecOn with
  | nil =>
      show start.session.standing.Agrees config [] ∅
      rw [standing_begin begun]
      exact Standing.Agrees.start config
  | append_singleton earlier call ih =>
      have hconfig : (start.session.afterCalls earlier).config = config := ih.config_eq
      rw [standing_afterCalls_concat, hconfig, List.map_append, List.map_singleton,
        stepsFrom_concat, replayFrom_concat]
      dsimp only [Call.input]
      generalize hline : Line.ofText config.marker call.text = line
      exact Standing.Agrees.step ⟨_, call.moment, call.text, line⟩ ih hline

/-- A begun session after any calls, read off their lines: its journal, members, turn, counts and
phase; and, for whatever call comes next, when it ends the session and why it can be broken off. -/
theorem afterCalls_account {config : Config} {files : σ} {output : ω} {start : World σ ω}
    (begun : begin ⟨.fresh config, files, output⟩ = .ok () start) (calls : List (Call σ ω)) :
    let session := start.session.afterCalls calls
    let steps := stepsFrom config.marker ∅ (calls.map Call.input)
    let replayed := replayFrom config.marker ∅ (calls.map Call.input)
    session.journal.entries.toList =
      (steps.rtakeWhile (!·.isReset)).filterMap (·.recorded? config.placeholder) ∧
    session.roster.members = replayed.members ∧ session.roster.active = replayed.active ∧
    (∀ name, session.roster.turnCount name =
      (steps.rtakeWhile (!·.removes name)).countP (·.isTurnOf config.placeholder name)) ∧
    (session.phase = .terminated ↔ ∃ step ∈ steps, step.line = .command .quit) ∧
    ∀ call : Call σ ω,
      ((∃ after, session.answer call = .ok .terminate after) ↔
        Line.ofText config.marker call.text = .command .quit) ∧
      ∀ fault after, session.answer call = .error fault after →
        Sink.Fails call.output after.output := by
  intro session steps replayed
  have h := agrees_afterCalls begun calls
  refine ⟨h.entries_eq, h.sameSeats.1, h.sameSeats.2, h.turnCount_eq, h.terminated_iff, ?_⟩
  intro call
  refine ⟨?_, fun fault after hbroken => handleLine_fails hbroken⟩
  have hconfig : session.config = config := h.config_eq
  rw [← hconfig]
  exact handleLine_terminates_iff call.moment call.text _

/-- With a bootstrap script that is empty, an output that takes two bytes, and lines of most kinds:
the reset forgets a submission but not the turn it took, and leaving forgets both turns. -/
theorem afterCalls_account_of_evening :
    let world : World Answered :=
      ⟨.fresh { bootstrap := some "setup" }, { found := true, content := .ok "" }, .bounded 2⟩
    let call (text : String) : Call Answered Output := ⟨⟨0⟩, text, {}, .bounded 2⟩
    let morning := ["/join Ada", "/join Bo", " 1 + 1 ", "/reset", "x", "/switch Bo"].map call
    begin world = .ok () world ∧
    (world.session.afterCalls morning).roster.turnCount "Ada" = 2 ∧
    (world.session.afterCalls (morning ++ ["/leave Ada", "y", "/quit"].map call)).journal.entries =
      #[⟨"Ada", "x", ⟨0⟩⟩, ⟨"Bo", "y", ⟨0⟩⟩] ∧
    (world.session.afterCalls (morning ++ ["/leave Ada", "y", "/quit"].map call)).phase =
      .terminated := by
  intro world call morning
  have hblock (room : Room) : executeBlock room "" = (pure () : ExecutionOn Output _ Unit) := by
    unfold executeBlock readProgram readTokens tokensOf
    rw [show "".toList = [] from rfl, scanFrom]
    simp [Statement.ofTokens, Parser.statementsFrom, bind, Except.bind, Except.mapError]
    rfl
  have begun : begin world = .ok () world := by
    show EStateM.bind (runScript fun room => executeBlock room "") _ world = _
    simp only [hblock]
    rfl
  refine ⟨begun, ?_, ?_, ?_⟩
  · exact (afterCalls_account begun morning).2.2.2.1 "Ada" |>.trans (by decide +kernel)
  · apply Array.toList_inj.1
    exact (afterCalls_account begun _).1.trans (by decide +kernel)
  · exact (afterCalls_account begun _).2.2.2.2.1.2 (by decide +kernel)

end Session

end Roundtable
