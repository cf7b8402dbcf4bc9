import Roundtable.Proofs.Roster.Turns
import Roundtable.Proofs.Script.Pairing.Evaluation
import Roundtable.Proofs.Session.Standing
import Roundtable.Session.Demand
/-!
Sessions that nobody can tell apart. Two sessions that agree in their settings, their rosters and
their journals and whose bindings lead to counterparts answer every line alike and agree again
afterwards. Of all that came before it a reset leaves only the settings, the members and the counts
of turns, so nothing else of the past can be seen behind it.
-/

namespace Roundtable

open Script

/-- Agreement of two sessions up to the places of lists. Lists that no counterpart leads to may
differ, and so may the phase, which no line looks at. -/
structure Session.Paired (pairs : Pairing) (session other : Session) : Prop where
  config_eq : session.config = other.config
  roster : session.roster.Alike other.roster
  journal_eq : session.journal = other.journal
  bindings : session.bindings.Paired pairs other.bindings
  heap : session.heap.Paired pairs other.heap

/-- Paired sessions over the same files and the same output. -/
structure World.Paired {σ ω : Type} (pairs : Pairing) (world other : World σ ω) : Prop where
  session : world.session.Paired pairs other.session
  files_eq : world.files = other.files
  output_eq : world.output = other.output

namespace Session

variable {σ ω ε α : Type} {pairs : Pairing}

namespace Paired

variable {session session' : Session}

theorem room_alike (h : session.Paired pairs session') : session.room.Alike session'.room :=
  ⟨h.roster.sameSeats.1, h.journal_eq⟩

theorem prompt_eq (h : session.Paired pairs session') : session.prompt = session'.prompt := by
  unfold prompt
  rw [h.roster.sameSeats.2]

theorem record (h : session.Paired pairs session') (now : Moment) (code : String) :
    (session.record now code).Paired pairs (session'.record now code) := by
  have hauthor : session.author = session'.author := by
    unfold author
    rw [h.roster.sameSeats.2, h.config_eq]
  unfold Session.record
  rw [hauthor, h.journal_eq]
  exact ⟨h.config_eq, h.roster.recordTurn _, rfl, h.bindings, h.heap⟩

theorem playerLines_eq (h : session.Paired pairs session') :
    session.playerLines = session'.playerLines := by
  unfold playerLines
  rw [h.roster.describe_eq, h.config_eq]

theorem historyLines_eq (h : session.Paired pairs session') :
    session.historyLines = session'.historyLines := by
  unfold historyLines
  rw [h.journal_eq, h.config_eq]

end Paired

/-- Whatever two sessions went through, resets leave them paired if they have the same settings and
members and if each name took the same number of turns. No list is counted on to survive. -/
theorem paired_reset {session session' : Session} (hconfig : session.config = session'.config)
    (hmembers : session.roster.members = session'.roster.members)
    (hturns : ∀ name, session.roster.turnCount name = session'.roster.turnCount name)
    (lists lists' : Heap) :
    Session.Paired (fun _ _ => False) { session.reset with heap := lists }
      { session'.reset with heap := lists' } := by
  refine ⟨hconfig, .activateFirst hmembers hturns, rfl, ?_, Heap.paired_none lists lists'⟩
  show Bindings.Paired _ (.seeded session.config.sessionName) (.seeded session'.config.sessionName)
  rw [hconfig]
  exact Bindings.Paired.seeded _

/-! ### One line -/

theorem update_together {change : Session → Session}
    (h : ∀ session session' : Session, session.Paired pairs session' →
      (change session).Paired pairs (change session')) :
    Together World.Paired Done pairs (update change : ActivityOn ω σ ε Unit)
      (update change) :=
  fun _ _ hworld => .ok le_rfl trivial ⟨h _ _ hworld.session, hworld.files_eq, hworld.output_eq⟩

theorem runScript_together {related : Pairing → α → α → Prop}
    {script : Room → ExecutionOn ω ScriptFault α}
    (h : ∀ room room', room.Alike room' →
      Together Machine.Paired related pairs (script room) (script room')) :
    Together World.Paired (fun pairs => Outcomes (related pairs)) pairs
      (runScript script : ActivityOn ω σ ε (Except ScriptFault α)) (runScript script) := by
  rintro ⟨⟨config, roster, journal, bindings, heap, phase⟩, files, output⟩
    ⟨⟨config', roster', journal', bindings', heap', phase'⟩, files', output'⟩ hworld
  have hsession := hworld.session
  have hends := h ⟨roster, journal⟩ ⟨roster', journal'⟩ hsession.room_alike
    ⟨bindings, heap, output⟩ ⟨bindings', heap', output'⟩
    ⟨hsession.bindings, hsession.heap, hworld.output_eq⟩
  unfold runScript
  dsimp only
  generalize script ⟨roster, journal⟩ ⟨bindings, heap, output⟩ = x at hends
  generalize script ⟨roster', journal'⟩ ⟨bindings', heap', output'⟩ = y at hends
  cases hends with
  | ok hle hrelated hmachine =>
      refine .ok hle (.ok hrelated) ⟨⟨hsession.config_eq, hsession.roster, hsession.journal_eq,
        hmachine.bindings, hmachine.heap⟩, hworld.files_eq, hmachine.output_eq⟩
  | error fault hle hmachine =>
      refine .ok hle (.error fault) ⟨⟨hsession.config_eq, hsession.roster, hsession.journal_eq,
        hmachine.bindings, hmachine.heap⟩, hworld.files_eq, hmachine.output_eq⟩

variable [Sink ω]

theorem write_together (text : String) :
    Together World.Paired Done pairs (write text : ActivityOn ω σ OutputFault Unit)
      (write text) := by
  rintro ⟨session, files, output⟩ ⟨session', files', output'⟩
    ⟨hsession, hfiles, houtput : output = output'⟩
  subst houtput
  unfold write
  dsimp only
  split
  · exact .ok le_rfl trivial ⟨hsession, hfiles, rfl⟩
  · exact .error _ le_rfl ⟨hsession, hfiles, rfl⟩

theorem writeLines_together (lines : List String) :
    Together World.Paired Done pairs (writeLines lines : ActivityOn ω σ OutputFault Unit)
      (writeLines lines) := by
  induction lines generalizing pairs with
  | nil => exact together_pure trivial
  | cons line rest ih => exact (write_together _).bind fun _ _ _ _ _ => ih

theorem submit_together (now : Moment) (code : String) :
    Together World.Paired Done pairs (submit now code : ActivityOn ω σ OutputFault Unit)
      (submit now code) := by
  apply (update_together fun _ _ hsession => hsession.record now code).bind
  intro _ _ _ _ _
  apply (runScript_together fun _ _ hroom => executeSubmission_together hroom code).bind
  intro _ _ result result' hresult
  cases hresult with
  | error fault => exact write_together _
  | ok hvalue =>
      cases hvalue with
      | none => exact together_pure trivial
      | some hvalue =>
          refine together_get_bind fun world world' hworld => ?_
          have hsession := hworld.session
          dsimp only
          rw [Value.display_eq_of_paired hsession.heap hsession.room_alike hvalue]
          exact write_together _

variable [FileStore σ]

theorem loadFile_together (path : String) :
    Together World.Paired (fun _ => Outcomes fun _ _ => True) pairs
      (loadFile path : ActivityOn ω σ ε (Except LoadFault Unit)) (loadFile path) := by
  refine together_get_bind fun world world' hworld => ?_
  refine together_get_bind fun again again' hagain => ?_
  rw [hworld.session.config_eq, hagain.files_eq]
  split
  · exact together_pure (.error _)
  · apply (runScript_together fun _ _ hroom => executeBlock_together hroom _).bind
    intro _ _ result result' hresult
    cases hresult with
    | ok => exact together_pure (.ok trivial)
    | error fault => exact together_pure (.error _)

theorem load_together (path : String) :
    Together World.Paired Done pairs (load path : ActivityOn ω σ OutputFault Unit)
      (load path) := by
  apply (loadFile_together path).bind
  intro _ _ result result' hresult
  cases hresult with
  | ok => exact together_pure trivial
  | error fault => exact write_together _

theorem saveHistory_together (path : String) :
    Together World.Paired Done pairs (saveHistory path : ActivityOn ω σ OutputFault Unit)
      (saveHistory path) := by
  refine together_get_bind fun world world' hworld => ?_
  refine together_get_bind fun again again' hagain => ?_
  rw [hworld.session.config_eq, hagain.session.journal_eq]
  refine Together.bind (?_ : Together World.Paired (fun _ => Eq) pairs _ _) ?_
  · rintro ⟨session, files, output⟩ ⟨session', files', output'⟩
      ⟨hsession, hfiles : files = files', houtput⟩
    subst hfiles
    exact .ok le_rfl rfl ⟨hsession, rfl, houtput⟩
  · intro _ _ result _ heq
    subst heq
    split
    · exact write_together _
    · exact write_together _

/-- A reset is left out: it forgets the lists, and with them their pairs. -/
theorem runCommand_together {command : Command} (hreset : command ≠ .reset) :
    Together World.Paired (fun _ => Eq) pairs
      (runCommand command : ActivityOn ω σ OutputFault Signal) (runCommand command) := by
  have hroster {change : Roster → Roster}
      (h : ∀ roster other : Roster, roster.Alike other → (change roster).Alike (change other)) :
      Together World.Paired Done pairs
        (update fun session => { session with roster := change session.roster } :
          ActivityOn ω σ OutputFault Unit)
        (update fun session => { session with roster := change session.roster }) :=
    update_together fun _ _ hsession => ⟨hsession.config_eq, h _ _ hsession.roster,
      hsession.journal_eq, hsession.bindings, hsession.heap⟩
  cases command with
  | join name => exact (hroster fun _ _ h => h.join name).answer Signal.continue
  | switch name => exact (hroster fun _ _ h => h.switchTo name).answer Signal.continue
  | leave name => exact (hroster fun _ _ h => h.leave name).answer Signal.continue
  | players =>
      refine together_get_bind fun world world' hworld => ?_
      rw [hworld.session.playerLines_eq]
      exact (writeLines_together _).answer Signal.continue
  | history =>
      refine together_get_bind fun world world' hworld => ?_
      rw [hworld.session.historyLines_eq]
      exact (writeLines_together _).answer Signal.continue
  | load path => exact (load_together path).answer Signal.continue
  | save path => exact (saveHistory_together path).answer Signal.continue
  | reset => exact absurd rfl hreset
  | help | unknown =>
      refine together_get_bind fun world world' hworld => ?_
      rw [hworld.session.config_eq]
      exact (write_together _).answer Signal.continue
  | quit =>
      have hphase : Together World.Paired Done pairs
          (update fun session => { session with phase := .terminated } :
            ActivityOn ω σ OutputFault Unit)
          (update fun session => { session with phase := .terminated }) :=
        update_together fun _ _ hsession => ⟨hsession.config_eq, hsession.roster,
          hsession.journal_eq, hsession.bindings, hsession.heap⟩
      exact hphase.answer Signal.terminate

/-- What a reset does once the session is reset. -/
def resetReport : ActivityOn ω σ OutputFault Signal := do
  writeLine "Context and history cleared; players kept."
  return .continue

theorem runCommand_reset (world : World σ ω) :
    runCommand .reset world = resetReport { world with session := world.session.reset } :=
  rfl

/-- Two sessions that agree up to the places of lists answer a line alike and agree afterwards. A
reset starts the pairing anew. -/
theorem handleLine_ends {world world' : World σ ω} (h : world.Paired pairs world') (now : Moment)
    (text : String) : ∃ start, Endings World.Paired (fun _ => Eq) start
      (handleLine now text world) (handleLine now text world') := by
  rw [handleLine_eq, handleLine_eq, h.session.config_eq]
  generalize Line.ofText world'.session.config.marker text = line
  cases line with
  | blank => exact ⟨pairs, together_pure rfl _ _ h⟩
  | submission code =>
      have hsubmit : Together World.Paired (fun _ => Eq) pairs
          (carryOut now (.submission code) : ActivityOn ω σ OutputFault Signal)
          (carryOut now (.submission code)) :=
        (submit_together now code).answer Signal.continue
      exact ⟨pairs, hsubmit world world' h⟩
  | command command =>
      by_cases hreset : command = .reset
      -- After a reset no list has a counterpart, so the pairs of before do not carry over.
      · subst hreset
        have hsession := paired_reset h.session.config_eq h.session.roster.sameSeats.1
          h.session.roster.turnCount_eq .empty .empty
        have hreport : Together World.Paired (fun _ => Eq) (fun _ _ => False)
            (resetReport : ActivityOn ω σ OutputFault Signal) resetReport :=
          (write_together _).answer Signal.continue
        rw [carryOut, runCommand_reset, runCommand_reset]
        exact ⟨_, hreport _ _ ⟨hsession, h.files_eq, h.output_eq⟩⟩
      · exact ⟨pairs, runCommand_together hreset world world' h⟩

/-! ### What can be seen of a session -/

/-- What can be seen of a session when it is given a line, and what the line leaves outside. -/
structure Exchange (σ ω : Type) where
  prompt : String
  signal : Except OutputFault Signal
  journal : Journal
  files : σ
  output : ω

/-- What can be seen of a session that is given lines, going on behind those that the output broke
off. -/
def exchanges (world : World σ ω) : List (Moment × String) → List (Exchange σ ω)
  | [] => []
  | (now, text) :: rest =>
    let result := handleLine now text world
    let after := stateAfter result
    ⟨world.session.prompt, outcome result, after.session.journal, after.files, after.output⟩ ::
      exchanges after rest

theorem exchanges_eq_of_paired {world world' : World σ ω} (h : world.Paired pairs world')
    (inputs : List (Moment × String)) : exchanges world inputs = exchanges world' inputs := by
  induction inputs generalizing pairs world world' with
  | nil => rfl
  | cons input rest ih =>
      obtain ⟨now, text⟩ := input
      obtain ⟨start, hends⟩ := handleLine_ends h now text
      obtain ⟨later, -, hafter⟩ := hends.exists_stateAfter
      have hsignal : outcome (handleLine now text world) = outcome (handleLine now text world') :=
        hends.outcome_eq
      unfold exchanges
      dsimp only
      rw [h.session.prompt_eq, hsignal, hafter.session.journal_eq, hafter.files_eq,
        hafter.output_eq, ih hafter]

/-- A line that asks for a reset leaves the session reset, also if its report is broken off. -/
theorem stateAfter_reset (now : Moment) {text : String} (world : World σ ω)
    (h : Line.ofText world.session.config.marker text = .command .reset) :
    (stateAfter (handleLine now text world)).session = world.session.reset := by
  have hkeeps : Leads (fun before after => after.session = before.session)
      (resetReport : ActivityOn ω σ OutputFault Signal) := by
    refine leads_bind (fun hfirst hsecond => hsecond.trans hfirst) ?_ fun _ _ => rfl
    rintro ⟨session, files, output⟩
    dsimp only [writeLine, write]
    split <;> rfl
  rw [handleLine_eq, h, carryOut, runCommand_reset]
  exact hkeeps { world with session := world.session.reset }

/-- Two sessions with the same settings, the same members and the same counts of turns cannot be
told apart once each was given a line that asks for a reset, whatever they shared, recorded, ran or
loaded before, whoever had the turn, and whatever lines come after. That also holds while the lists
from before are still in their heaps, since no name leads to them. -/
theorem exchanges_after_reset {first second : World σ ω}
    (hconfig : first.session.config = second.session.config)
    (hmembers : first.session.roster.members = second.session.roster.members)
    (hturns : ∀ name, first.session.roster.turnCount name = second.session.roster.turnCount name)
    (now later : Moment) {text more : String}
    (hfirst : Line.ofText first.session.config.marker text = .command .reset)
    (hsecond : Line.ofText second.session.config.marker more = .command .reset)
    (lists others : Heap) (files : σ) (output : ω) (inputs : List (Moment × String)) :
    let after := (stateAfter (handleLine now text first)).session
    let other := (stateAfter (handleLine later more second)).session
    exchanges ⟨after, files, output⟩ inputs = exchanges ⟨other, files, output⟩ inputs ∧
    exchanges ⟨{ after with heap := lists }, files, output⟩ inputs =
      exchanges ⟨{ other with heap := others }, files, output⟩ inputs := by
  have hpaired (lists others : Heap) : World.Paired (fun _ _ => False)
      ⟨{ first.session.reset with heap := lists }, files, output⟩
      ⟨{ second.session.reset with heap := others }, files, output⟩ :=
    ⟨paired_reset hconfig hmembers hturns lists others, rfl, rfl⟩
  intro after other
  have hafter : after = first.session.reset := stateAfter_reset now first hfirst
  have hother : other = second.session.reset := stateAfter_reset later second hsecond
  rw [hafter, hother]
  exact ⟨exchanges_eq_of_paired (hpaired .empty .empty) inputs,
    exchanges_eq_of_paired (hpaired lists others) inputs⟩

/-- One session in which nothing happened, and one with a list that holds itself under a seeded
name, an entry, another turn and a line that ended it. -/
theorem exchanges_after_reset_of_evening :
    let plain : Session := { Session.fresh {} with roster := ⟨["Ada", "Bo"], some "Ada", ∅⟩ }
    let evening : Session :=
      { config := {}
        roster := ⟨["Ada", "Bo"], some "Bo", (∅ : Std.ExtTreeMap String Nat).insert "Bo" 0⟩
        journal := (∅ : Journal).record "Bo" "joined[0] = joined" ⟨0⟩
        bindings := (Bindings.seeded "Campfire").insert "joined" (.list 0)
        heap := ⟨#[#[.list 0]]⟩
        phase := .terminated }
    let world (session : Session) : World Answered := ⟨session, {}, .unbounded⟩
    let reset := (stateAfter (handleLine ⟨0⟩ "/reset" (world plain))).session
    let other := (stateAfter (handleLine ⟨60⟩ " / RESET it" (world evening))).session
    let inputs := [(⟨61⟩, "joined"), (⟨62⟩, "x = [history]"), (⟨63⟩, "x"), (⟨64⟩, "/players")]
    plain.prompt ≠ evening.prompt ∧
    exchanges (world reset) inputs = exchanges (world other) inputs ∧
    exchanges (world { reset with heap := plain.heap }) inputs =
      exchanges (world { other with heap := evening.heap }) inputs := by
  intro plain evening world reset other inputs
  have hconfig : (world plain).session.config = (world evening).session.config := rfl
  have hmembers : (world plain).session.roster.members = (world evening).session.roster.members :=
    rfl
  have hturns (name : String) : (world plain).session.roster.turnCount name =
      (world evening).session.roster.turnCount name := by
    show Std.ExtTreeMap.getD ∅ name 0 =
      ((∅ : Std.ExtTreeMap String Nat).insert "Bo" 0).getD name 0
    rw [Std.ExtTreeMap.getD_insert]
    split
    · rfl
    · rfl
  have hreset : Line.ofText (world plain).session.config.marker "/reset" = .command .reset := by
    decide +kernel
  have hother : Line.ofText (world evening).session.config.marker " / RESET it" =
      .command .reset := by
    decide +kernel
  refine ⟨by decide +kernel, ?_⟩
  exact exchanges_after_reset hconfig hmembers hturns ⟨0⟩ ⟨60⟩ hreset hother plain.heap evening.heap
    {} .unbounded inputs

end Session

end Roundtable
