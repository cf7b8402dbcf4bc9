import Roundtable.Proofs.Script.Lockstep
import Roundtable.Session.Turn
/-!
Sessions over two sinks. A line is handled in lockstep over coupled sinks: what a session does with
a line depends on the sink only through the writes that fail.
-/

namespace Roundtable

open Script

instance (σ : Type) : Carrier (@World σ) where
  Rest := Session × σ
  rest world := (world.session, world.files)
  sink world := world.output
  make part output := ⟨part.1, part.2, output⟩
  rest_make _ _ := rfl
  sink_make _ _ := rfl

namespace Session

section Steps

variable {σ ω ε α : Type}

theorem update_eq_onRest (change : Session → Session) :
    (update change : ActivityOn ω σ ε Unit) = onRest fun part : Session × σ =>
      (.ok (), (change part.1, part.2)) :=
  rfl

theorem runScript_eq_within (script : Room → ExecutionOn ω ScriptFault α) :
    (runScript script : ActivityOn ω σ ε (Except ScriptFault α)) =
      within (fun part : Session × σ => (part.1.bindings, part.1.heap))
        (fun (part : Session × σ) (shared : Bindings × Heap) =>
          ({ part.1 with bindings := shared.1, heap := shared.2 }, part.2))
        .ok (fun part : Session × σ => script part.1.room) := by
  funext ⟨⟨config, roster, journal, bindings, heap, phase⟩, files, output⟩
  unfold runScript within
  dsimp only [Carrier.rest, Carrier.make, Carrier.sink, Session.room]
  cases script ⟨roster, journal⟩ ⟨bindings, heap, output⟩ <;> rfl

end Steps

variable {σ ω ω' : Type} [Sink ω] [Sink ω'] (coupling : Coupling ω ω') {ε α : Type}

theorem update_lockstep (change : Session → Session) :
    Lockstep coupling (update change : ActivityOn ω σ ε Unit)
      (update change : ActivityOn ω' σ ε Unit) := by
  rw [update_eq_onRest, update_eq_onRest]
  exact lockstep_onRest _

theorem runScript_lockstep {script : Room → ExecutionOn ω ScriptFault α}
    {script' : Room → ExecutionOn ω' ScriptFault α}
    (h : ∀ room, Lockstep coupling (script room) (script' room)) :
    Lockstep coupling (runScript script : ActivityOn ω σ ε (Except ScriptFault α))
      (runScript script' : ActivityOn ω' σ ε (Except ScriptFault α)) := by
  rw [runScript_eq_within, runScript_eq_within]
  exact lockstep_within _ _ _ fun part : Session × σ => h part.1.room

theorem write_lockstep (text : String) :
    Lockstep coupling (write text : ActivityOn ω σ OutputFault Unit)
      (write text : ActivityOn ω' σ OutputFault Unit) :=
  lockstep_writeTo OutputFault.full text

theorem writeLines_lockstep (lines : List String) :
    Lockstep coupling (writeLines lines : ActivityOn ω σ OutputFault Unit)
      (writeLines lines : ActivityOn ω' σ OutputFault Unit) := by
  induction lines with
  | nil => exact lockstep_pure ()
  | cons line rest ih => exact (write_lockstep coupling _).bind fun _ => ih

theorem submit_lockstep (now : Moment) (code : String) :
    Lockstep coupling (submit now code : ActivityOn ω σ OutputFault Unit)
      (submit now code : ActivityOn ω' σ OutputFault Unit) := by
  refine (update_lockstep coupling _).bind fun _ => ?_
  refine (runScript_lockstep coupling fun room =>
    executeSubmission_lockstep coupling room code).bind fun result => ?_
  split
  · exact lockstep_pure ()
  · refine lockstep_get_bind fun world world' hrest => ?_
    obtain ⟨hsession, -⟩ := Prod.mk.inj hrest
    rw [hsession]
    exact write_lockstep coupling _
  · exact write_lockstep coupling _

variable [FileStore σ]

theorem loadFile_lockstep (path : String) :
    Lockstep coupling (loadFile path : ActivityOn ω σ ε (Except LoadFault Unit))
      (loadFile path : ActivityOn ω' σ ε (Except LoadFault Unit)) := by
  refine lockstep_get_bind fun world world' hworld => ?_
  refine lockstep_get_bind fun again again' hagain => ?_
  obtain ⟨hsession, -⟩ := Prod.mk.inj hworld
  obtain ⟨-, hfiles⟩ := Prod.mk.inj hagain
  rw [hsession, hfiles]
  split
  · exact lockstep_pure _
  · refine (runScript_lockstep coupling fun room =>
      executeBlock_lockstep coupling room _).bind fun result => ?_
    exact lockstep_pure _

theorem load_lockstep (path : String) :
    Lockstep coupling (load path : ActivityOn ω σ OutputFault Unit)
      (load path : ActivityOn ω' σ OutputFault Unit) := by
  refine (loadFile_lockstep coupling path).bind fun result => ?_
  split
  · exact lockstep_pure ()
  · exact write_lockstep coupling _

theorem saveHistory_lockstep (path : String) :
    Lockstep coupling (saveHistory path : ActivityOn ω σ OutputFault Unit)
      (saveHistory path : ActivityOn ω' σ OutputFault Unit) := by
  refine lockstep_get_bind fun world world' hworld => ?_
  refine lockstep_get_bind fun again again' hagain => ?_
  obtain ⟨hsession, -⟩ := Prod.mk.inj hworld
  obtain ⟨hsession', -⟩ := Prod.mk.inj hagain
  rw [hsession, hsession']
  generalize Files.expandHome world'.session.config.home path = path
  generalize again'.session.journal.logText = text
  have hsave : Lockstep coupling
      (onRest fun part : Session × σ =>
        let saved := FileStore.save part.2 path text
        (.ok saved.2, (part.1, saved.1)) : ActivityOn ω σ OutputFault (Except SaveFault Unit))
      (onRest fun part : Session × σ =>
        let saved := FileStore.save part.2 path text
        (.ok saved.2, (part.1, saved.1)) : ActivityOn ω' σ OutputFault (Except SaveFault Unit)) :=
    lockstep_onRest _
  refine hsave.bind fun result => ?_
  split
  · exact write_lockstep coupling _
  · exact write_lockstep coupling _

theorem runCommand_lockstep (command : Command) :
    Lockstep coupling (runCommand command : ActivityOn ω σ OutputFault Signal)
      (runCommand command : ActivityOn ω' σ OutputFault Signal) := by
  cases command with
  | join | switch | leave | quit =>
      exact (update_lockstep coupling _).bind fun _ => lockstep_pure _
  | players | history =>
      refine lockstep_get_bind fun world world' hrest => ?_
      obtain ⟨hsession, -⟩ := Prod.mk.inj hrest
      rw [hsession]
      exact (writeLines_lockstep coupling _).bind fun _ => lockstep_pure _
  | load path => exact (load_lockstep coupling path).bind fun _ => lockstep_pure _
  | save path => exact (saveHistory_lockstep coupling path).bind fun _ => lockstep_pure _
  | reset =>
      refine (update_lockstep coupling _).bind fun _ => ?_
      exact (write_lockstep coupling _).bind fun _ => lockstep_pure _
  | help | unknown =>
      refine lockstep_get_bind fun world world' hrest => ?_
      obtain ⟨hsession, -⟩ := Prod.mk.inj hrest
      rw [hsession]
      exact (write_lockstep coupling _).bind fun _ => lockstep_pure _

theorem handleLine_lockstep (now : Moment) (text : String) :
    Lockstep coupling (handleLine now text : ActivityOn ω σ OutputFault Signal)
      (handleLine now text : ActivityOn ω' σ OutputFault Signal) := by
  refine lockstep_get_bind fun world world' hrest => ?_
  obtain ⟨hsession, -⟩ := Prod.mk.inj hrest
  rw [hsession]
  split
  · exact lockstep_pure _
  · exact runCommand_lockstep coupling _
  · exact (submit_lockstep coupling now _).bind fun _ => lockstep_pure _

/-! ### Line after line -/

/-- The world after lines, going on behind those that the output broke off. -/
def afterLines (world : World σ ω) (inputs : List (Moment × String)) : World σ ω :=
  inputs.foldl (fun world input => stateAfter (handleLine input.1 input.2 world)) world

/-- Two worlds that differ only in their outputs and are in step, or whose outputs are apart. -/
def Coupled (world : World σ ω) (world' : World σ ω') : Prop :=
  coupling.InStep world world' ∨ coupling.apart world.output world'.output

variable {coupling} {world : World σ ω} {world' : World σ ω'}

theorem Coupled.handleLine (h : Coupled coupling world world') (now : Moment) (text : String) :
    Coupled coupling (stateAfter (handleLine now text world))
      (stateAfter (Session.handleLine now text world')) := by
  have hline : Lockstep coupling (Session.handleLine now text : ActivityOn ω σ OutputFault Signal)
      (Session.handleLine now text : ActivityOn ω' σ OutputFault Signal) :=
    handleLine_lockstep coupling now text
  rcases h with hstep | hapart
  · exact (hline.ends world world' hstep).inStep_or_apart.imp_left (·.2)
  · exact .inr (hline.second_apart world' _ (hline.first_apart world _ hapart))

theorem Coupled.afterLines (h : Coupled coupling world world') (inputs : List (Moment × String)) :
    Coupled coupling (afterLines world inputs) (Session.afterLines world' inputs) := by
  induction inputs generalizing world world' with
  | nil => exact h
  | cons input rest ih =>
      unfold Session.afterLines
      rw [List.foldl_cons, List.foldl_cons]
      exact ih (h.handleLine input.1 input.2)

end Session

end Roundtable
