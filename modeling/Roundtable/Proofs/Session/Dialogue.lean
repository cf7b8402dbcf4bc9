import Roundtable.Proofs.Session.Answer
import Roundtable.Proofs.Session.InputLines
import Roundtable.Proofs.Session.Lockstep
import Roundtable.Proofs.Transcript
import Roundtable.Session.Demand
/-!
A whole session as the fold of its lines. Over an output that never fails, what a line does to the
session and to the files, and the texts that it writes, do not depend on what was written before. So
the lines can be handled one after the other without the prompts between them, and the output of the
session is put together from what each line writes on its own.
-/

namespace Roundtable.Session

variable {σ ω : Type}

/-! ### The lines of a session and what they show -/

/-- Whether one of the lines asks to quit. -/
def haveQuit (marker : Char) (lines : List String) : Bool :=
  lines.any fun line => Line.ofText marker line = .command .quit

/-- The lines up to the first that asks to quit, and that one. -/
def heard (marker : Char) : List String → List String
  | [] => []
  | line :: rest =>
    if Line.ofText marker line = .command .quit then [line] else line :: heard marker rest

/-- Lines with the moments at which they are read, the first of them as number `count`. -/
def timed (clock : Clock) (count : Nat) (lines : List String) : List (Moment × String) :=
  (lines.zipIdx count).map fun (line, number) => (clock number, line)

/-- The world after a line that was handled over a blank transcript. -/
def shownBy [FileStore σ] (now : Moment) (line : String) (session : Session) (files : σ) :
    World σ Transcript :=
  stateAfter (handleLine now line ⟨session, files, .blank⟩)

/-- All that is shown while lines are handled: for each of them the prompt, then what it writes. -/
def conversation [FileStore σ] (session : Session) (files : σ) :
    List (Moment × String) → List String
  | [] => []
  | (now, line) :: rest =>
    let shown := shownBy now line session files
    session.prompt :: shown.output.texts ++ conversation shown.session shown.files rest

/-- What is shown when the input ends: one more prompt, an empty line and the farewell. -/
def parting (session : Session) : List String :=
  [session.prompt, "\n", farewell ++ "\n"]

def terminated (session : Session) : Session :=
  { session with phase := .terminated }

theorem haveQuit_cons (marker : Char) (line : String) (rest : List String) :
    haveQuit marker (line :: rest) ↔
      Line.ofText marker line = .command .quit ∨ haveQuit marker rest := by
  simp [haveQuit]

/-- Lines that are not heard come after those that are, and only if one of these asks to quit. -/
theorem exists_eq_heard_append (marker : Char) (lines : List String) :
    ∃ unheard, lines = heard marker lines ++ unheard ∧ (haveQuit marker lines ∨ unheard = []) := by
  induction lines with
  | nil => exact ⟨[], rfl, .inr rfl⟩
  | cons line rest ih =>
      obtain ⟨unheard, hrest, hend⟩ := ih
      unfold heard
      split
      · rename_i hquit
        exact ⟨rest, rfl, .inl ((haveQuit_cons marker line rest).2 (.inl hquit))⟩
      · refine ⟨unheard, congrArg (line :: ·) hrest, hend.imp_left fun hhave => ?_⟩
        exact (haveQuit_cons marker line rest).2 (.inr hhave)

theorem timed_cons (clock : Clock) (count : Nat) (line : String) (rest : List String) :
    timed clock count (line :: rest) = (clock count, line) :: timed clock (count + 1) rest :=
  rfl

/-! ### One line -/

section Line

variable [FileStore σ] {line : String}

theorem standing_shownBy (now : Moment) (line : String) (session : Session) (files : σ) :
    (shownBy now line session files).session.standing =
      session.standing.after now (Line.ofText session.config.marker line) := by
  unfold shownBy
  rw [handleLine_standing]

theorem config_shownBy (now : Moment) (line : String) (session : Session) (files : σ) :
    (shownBy now line session files).session.config = session.config := by
  have hconfig := congrArg Standing.config (standing_shownBy now line session files)
  rw [Standing.config_after] at hconfig
  generalize shownBy now line session files = shown at hconfig ⊢
  exact hconfig

theorem terminated_shownBy (now : Moment) {session : Session} (files : σ)
    (hquit : Line.ofText session.config.marker line = .command .quit) :
    let shown := shownBy now line session files
    shown.session.terminated = shown.session := by
  have hphase := congrArg Standing.phase (standing_shownBy now line session files)
  rw [hquit] at hphase
  generalize shownBy now line session files = shown at hphase ⊢
  have hphase : shown.session.phase = .terminated := hphase
  intro shown
  rw [terminated, ← hphase]

theorem signal_of_ne_quit {marker : Char} (hline : Line.ofText marker line ≠ .command .quit) :
    (Line.ofText marker line).signal = .continue := by
  unfold Line.signal
  split
  · exact absurd ‹_› hline
  · rfl

variable [Sink ω] {output : ω}

/-- Over an output that never fails a line does what it does over a blank transcript. -/
theorem handleLine_eq_shownBy (hnever : Sink.NeverFails output) (now : Moment) (line : String)
    (session : Session) (files : σ) :
    let shown := shownBy now line session files
    handleLine now line ⟨session, files, output⟩ =
      .ok (Line.ofText session.config.marker line).signal
        ⟨shown.session, shown.files, Sink.writeAll output shown.output.texts⟩ := by
  intro shown
  have hlockstep : Lockstep (Transcript.besides output hnever)
      (handleLine now line : ActivityOn Transcript σ OutputFault Signal) (handleLine now line) :=
    handleLine_lockstep _ now line
  have hends := hlockstep.ends ⟨session, files, .blank⟩ ⟨session, files, output⟩ ⟨rfl, rfl⟩
  -- A transcript breaks no line off, and nothing is apart from the transcript beside it.
  cases hrun : handleLine now line (⟨session, files, .blank⟩ : World σ Transcript) with
  | error fault broken => exact absurd (handleLine_fails hrun) (Transcript.not_fails _ _)
  | ok signal after =>
      have hshown : shown = after := congrArg stateAfter hrun
      rw [hrun] at hends
      generalize handleLine now line (⟨session, files, output⟩ : World σ ω) = result at hends
      cases hends with
      | @ok _ reached _ hstep =>
          obtain ⟨session', files', output'⟩ := reached
          obtain ⟨rfl, rfl⟩ := Prod.mk.inj hstep.rest_eq
          obtain rfl : output' = Sink.writeAll output after.output.texts := hstep.sinks
          rw [hshown, ← handleLine_gives hrun]
      | apart hapart => exact hapart.elim

theorem afterLines_cons (hnever : Sink.NeverFails output) (now : Moment) (line : String)
    (inputs : List (Moment × String)) (session : Session) (files : σ) :
    let shown := shownBy now line session files
    afterLines ⟨session, files, output⟩ ((now, line) :: inputs) =
      afterLines ⟨shown.session, shown.files, Sink.writeAll output shown.output.texts⟩ inputs := by
  have hline := handleLine_eq_shownBy hnever now line session files
  generalize shownBy now line session files = shown at hline ⊢
  intro shown
  rw [afterLines, List.foldl_cons, hline]
  rfl

end Line

/-! ### One read -/

section Reads

variable [Sink ω] {output : ω}

theorem write_eq (hnever : Sink.NeverFails output) (text : String) (session : Session) (files : σ) :
    orOutputFault (write text) ⟨session, files, output⟩ =
      .ok () ⟨session, files, Sink.writeAll output [text]⟩ := by
  unfold orOutputFault write
  dsimp only
  rw [hnever.write_eq text]

theorem showPrompt_eq (hnever : Sink.NeverFails output) (session : Session) (files : σ) :
    showPrompt true ⟨session, files, output⟩ =
      .ok () ⟨session, files, Sink.writeAll output [session.prompt]⟩ :=
  write_eq hnever session.prompt session files

theorem finish_eq (hnever : Sink.NeverFails output) (session : Session) (files : σ) :
    finish ⟨session, files, output⟩ =
      .ok () ⟨session.terminated, files, Sink.writeAll output ["\n", farewell ++ "\n"]⟩ := by
  unfold finish writeLine
  rw [bind_of_ok (write_eq hnever ("" ++ "\n") session files),
    bind_of_ok (write_eq (hnever.writeAll _) (farewell ++ "\n") session files)]
  rfl

variable [FileStore σ]

theorem handleReads_nil (hnever : Sink.NeverFails output) (clock : Clock) (count : Nat)
    (session : Session) (files : σ) :
    handleReads clock true count [] ⟨session, files, output⟩ =
      .ok () ⟨session.terminated, files, Sink.writeAll output session.parting⟩ := by
  have hend : handleRead (clock count) .endOfInput
      ⟨session, files, Sink.writeAll output [session.prompt]⟩ = _ :=
    bind_of_ok (finish_eq (hnever.writeAll _) session files) _
  rw [handleReads, bind_of_ok (showPrompt_eq hnever session files), bind_of_ok hend]
  rfl

theorem handleReads_cons (hnever : Sink.NeverFails output) (clock : Clock) (count : Nat)
    (line : String) (reads : List Read) (session : Session) (files : σ) :
    let shown := shownBy (clock count) line session files
    let after : World σ ω := ⟨shown.session, shown.files,
      Sink.writeAll output (session.prompt :: shown.output.texts)⟩
    handleReads clock true count (.line line :: reads) ⟨session, files, output⟩ =
      if Line.ofText session.config.marker line = .command .quit then .ok () after
      else handleReads clock true (count + 1) reads after := by
  have hshown := handleLine_eq_shownBy (hnever.writeAll [session.prompt]) (clock count) line session
    files
  generalize shownBy (clock count) line session files = shown at hshown ⊢
  intro shown after
  have hline : handleRead (clock count) (.line line)
      ⟨session, files, Sink.writeAll output [session.prompt]⟩ =
        .ok (Line.ofText session.config.marker line).signal after := by
    rw [handleRead, orOutputFault, hshown]
    rfl
  rw [handleReads, bind_of_ok (showPrompt_eq hnever session files), bind_of_ok hline]
  split
  · rename_i hquit
    rw [hquit]
    rfl
  · rename_i hother
    rw [signal_of_ne_quit hother]

end Reads

/-! ### All lines -/

variable [FileStore σ] [Sink ω]

/-- The lines that are heard decide how a session goes on; what is read after one that asks to quit
is not looked at. The session and the files are those that the lines leave over another output, to
which no prompts are written. -/
theorem handleReads_heard (clock : Clock) {marker : Char} (lines : List String) {later : List Read}
    (hlater : haveQuit marker lines ∨ later = []) (count : Nat) {session : Session}
    (hmarker : session.config.marker = marker) (files : σ) {output other : ω}
    (hnever : Sink.NeverFails output) (hother : Sink.NeverFails other) {left : World σ ω}
    (hleft : afterLines ⟨session, files, other⟩ (timed clock count (heard marker lines)) = left) :
    handleReads clock true count ((heard marker lines).map .line ++ later)
        ⟨session, files, output⟩ =
      .ok () ⟨left.session.terminated, left.files, Sink.writeAll output
        (conversation session files (timed clock count (heard marker lines)) ++
          if haveQuit marker lines then [] else left.session.parting)⟩ := by
  -- The two outputs get different texts from each line, so the induction is over any two of them.
  induction lines generalizing count session files output other with
  | nil =>
      obtain rfl : later = [] := hlater.resolve_left Bool.false_ne_true
      subst hleft
      exact handleReads_nil hnever clock count session files
  | cons line rest ih =>
      subst hmarker
      by_cases hquit : Line.ofText session.config.marker line = .command .quit
      · have hheard : heard session.config.marker (line :: rest) = [line] := if_pos hquit
        have hhave := (haveQuit_cons session.config.marker line rest).2 (.inl hquit)
        have hinputs : timed clock count [line] = [(clock count, line)] := rfl
        have hterminated := terminated_shownBy (clock count) files hquit
        rw [hheard, hinputs, afterLines_cons hother] at hleft
        rw [hheard, hinputs, if_pos hhave, List.append_nil, conversation, conversation,
          List.append_nil]
        change handleReads clock true count (.line line :: later) _ = _
        rw [handleReads_cons hnever, if_pos hquit]
        generalize shownBy (clock count) line session files = shown at hterminated hleft ⊢
        subst hleft
        change _ = EStateM.Result.ok ()
          (⟨shown.session.terminated, shown.files, Sink.writeAll output _⟩ : World σ ω)
        rw [hterminated]
      · have hheard : heard session.config.marker (line :: rest) =
            line :: heard session.config.marker rest := if_neg hquit
        have hhave : haveQuit session.config.marker (line :: rest) =
            haveQuit session.config.marker rest := by simp [haveQuit, hquit]
        have hmarker := congrArg Config.marker (config_shownBy (clock count) line session files)
        rw [hhave] at hlater
        rw [hheard, timed_cons, afterLines_cons hother] at hleft
        rw [hheard, hhave, timed_cons, conversation]
        change handleReads clock true count (.line line :: _) _ = _
        rw [handleReads_cons hnever, if_neg hquit]
        generalize shownBy (clock count) line session files = shown at hmarker hleft ⊢
        rw [List.append_assoc, Sink.writeAll_append]
        exact ih hlater (count + 1) hmarker shown.files (hnever.writeAll _)
          (hother.writeAll shown.output.texts) hleft

/-- Over the bytes of a text and an output that never fails a session is the fold of the lines of
the text up to the first that asks to quit, and ends terminated. The output shows the banner, then
for each line the prompt and what it writes, and then what is shown at the end of the input, unless
a line asked to quit. What comes behind such a line can be anything, since it is not read. -/
theorem runWith_text (clock : Clock) {session : Session} (hphase : session.phase = .running)
    (files : σ) {output : ω} (hnever : Sink.NeverFails output) (text : String) :
    let marker := session.config.marker
    let lines := linesOf text
    let inputs := timed clock 0 (heard marker lines)
    let left := afterLines ⟨session, files, output⟩ inputs
    let ended : World σ ω := ⟨left.session.terminated, left.files, Sink.writeAll output
      ((session.banner ++ "\n") :: conversation session files inputs ++
        if haveQuit marker lines then [] else left.session.parting)⟩
    runWith clock true (readsOf text.toUTF8) ⟨session, files, output⟩ = .ok () ended ∧
      (haveQuit marker lines → ∀ later,
        runWith clock true ((heard marker lines).map .line ++ later) ⟨session, files, output⟩ =
          .ok () ended) := by
  intro marker lines inputs left ended
  have hrun (later : List Read) (hlater : haveQuit marker lines ∨ later = []) :
      runWith clock true ((heard marker lines).map .line ++ later) ⟨session, files, output⟩ =
        .ok () ended := by
    have hbanner := write_eq hnever (session.banner ++ "\n") session files
    refine (bind_of_ok hbanner _).trans ?_
    change (if session.phase = .running then
      handleReads clock true 0 ((heard marker lines).map .line ++ later) else pure ()) _ = _
    rw [if_pos hphase]
    exact handleReads_heard clock lines hlater 0 rfl files (hnever.writeAll _) hnever rfl
  obtain ⟨unheard, hsplit, hend⟩ := exists_eq_heard_append marker lines
  constructor
  · have hreads : readsOf text.toUTF8 = (heard marker lines).map .line ++ unheard.map .line := by
      rw [readsOf_toUTF8, ← List.map_append, ← hsplit]
    rw [hreads]
    exact hrun _ (hend.imp_right fun hnone => by rw [hnone]; rfl)
  · exact fun hhave later => hrun later (.inl hhave)

/-- A session with a line that ends in a carriage return, a blank one, and one behind the quit. -/
theorem runWith_text_of_visit :
    let text := "/join Ada\r\nprint(1 + 2)\n\n / QUIT now\nprint(3)"
    let world : World Answered := ⟨.fresh {}, {}, .unbounded⟩
    ∃ after, runWith (⟨·⟩) true (readsOf text.toUTF8) world = .ok () after ∧
      after.session.phase = .terminated ∧ after.session.roster.members = ["Ada"] ∧
      after.output = Sink.writeAll .unbounded
        [world.session.banner ++ "\n", "[no-player] >>> ", "[Ada] >>> ", "3\n", "[Ada] >>> ",
          "[Ada] >>> "] := by
  intro text world
  have hphase : world.session.phase = .running := rfl
  have hrun := (runWith_text (⟨·⟩) hphase world.files (Output.neverFails .empty) text).1
  refine ⟨_, hrun, rfl, ?_, ?_⟩
  · decide +kernel
  · apply congrArg (Sink.writeAll Output.unbounded)
    decide +kernel

end Roundtable.Session
