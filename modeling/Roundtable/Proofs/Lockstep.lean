import Roundtable.Proofs.Effect
/-!
One computation over two sinks. As long as the sinks answer its writes alike, the two runs do the
same and end alike. Once the sinks answer a write differently the runs can go their own ways; what is
known of the sinks from then on is what no write of either run can undo.
-/

namespace Roundtable

/-- States that hold a sink of any kind beside a part that does not depend on it. -/
class Carrier (τ : Type → Type) where
  Rest : Type
  rest {ω : Type} : τ ω → Rest
  sink {ω : Type} : τ ω → ω
  make {ω : Type} : Rest → ω → τ ω
  rest_make {ω : Type} (part : Rest) (held : ω) : rest (make part held) = part
  sink_make {ω : Type} (part : Rest) (held : ω) : sink (make part held) = held

open Carrier

/-! ### Steps seen as what they do to the sink and to the rest -/

section Steps

variable {τ υ : Type → Type} [Carrier τ] [Carrier υ] {ω ε ε' α β : Type}

/-- The result with this outcome in this state. -/
def endingIn {ρ : Type} (state : ρ) : Except ε α → EStateM.Result ε ρ α
  | .ok value => .ok value state
  | .error fault => .error fault state

theorem stateAfter_endingIn {ρ : Type} (state : ρ) (ending : Except ε α) :
    stateAfter (endingIn state ending) = state := by
  cases ending <;> rfl

/-- A computation that leaves the sink alone. -/
def onRest (step : Rest τ → Except ε α × Rest τ) : EStateM ε (τ ω) α := fun state =>
  endingIn (make (step (rest state)).2 (sink state)) (step (rest state)).1

theorem sink_stateAfter_onRest (step : Rest τ → Except ε α × Rest τ) (state : τ ω) :
    sink (stateAfter (onRest step state)) = sink state := by
  rw [onRest, stateAfter_endingIn, sink_make]

/-- A computation on a part of a state, beside the same sink. `view` gives the part and `back` puts
it back; `finish` says what its ending means for the whole. -/
def within (view : Rest υ → Rest τ) (back : Rest υ → Rest τ → Rest υ)
    (finish : Except ε α → Except ε' β) (action : Rest υ → EStateM ε (τ ω) α) :
    EStateM ε' (υ ω) β := fun state =>
  let result := action (rest state) (make (view (rest state)) (sink state))
  endingIn (make (back (rest state) (rest (stateAfter result))) (sink (stateAfter result)))
    (finish (outcome result))

variable [Sink ω]

/-- A write that ends in the given fault if the sink does not take the whole text. -/
def writeTo (fault : ε) (text : String) : EStateM ε (τ ω) Unit := fun state =>
  match Sink.write (sink state) text with
  | (held, true) => .ok () (make (rest state) held)
  | (held, false) => .error fault (make (rest state) held)

theorem sink_stateAfter_writeTo (fault : ε) (text : String) (state : τ ω) :
    sink (stateAfter (writeTo fault text state)) = (Sink.write (sink state) text).1 := by
  unfold writeTo
  rcases Sink.write (sink state) text with ⟨held, _ | _⟩
  · exact sink_make _ _
  · exact sink_make _ _

end Steps

/-! ### Coupled sinks -/

/-- Two relations of sinks. Writes take sinks that are in step to sinks in step, and end alike, or
they drive them apart; and sinks that are apart stay so, whatever is written to either. -/
structure Coupling (ω ω' : Type) [Sink ω] [Sink ω'] where
  inStep : ω → ω' → Prop
  apart : ω → ω' → Prop
  write_both {held : ω} {held' : ω'} (text : String) : inStep held held' →
    ((Sink.write held text).2 = (Sink.write held' text).2 ∧
        inStep (Sink.write held text).1 (Sink.write held' text).1) ∨
      apart (Sink.write held text).1 (Sink.write held' text).1
  write_first {held : ω} {held' : ω'} (text : String) : apart held held' →
    apart (Sink.write held text).1 held'
  write_second {held : ω} {held' : ω'} (text : String) : apart held held' →
    apart held (Sink.write held' text).1

section Runs

variable {τ : Type → Type} [Carrier τ] {ω ω' : Type} [Sink ω] [Sink ω'] {ε α β : Type}

namespace Coupling

/-- Two states that differ only in their sinks, and these are in step. -/
structure InStep (coupling : Coupling ω ω') (state : τ ω) (state' : τ ω') : Prop where
  rest_eq : rest state = rest state'
  sinks : coupling.inStep (sink state) (sink state')

/-- Two runs end alike and in step, or their sinks are apart. -/
inductive Ends (coupling : Coupling ω ω') :
    EStateM.Result ε (τ ω) α → EStateM.Result ε (τ ω') α → Prop where
  | ok {state : τ ω} {state' : τ ω'} (value : α) : coupling.InStep state state' →
      Ends coupling (.ok value state) (.ok value state')
  | error {state : τ ω} {state' : τ ω'} (fault : ε) : coupling.InStep state state' →
      Ends coupling (.error fault state) (.error fault state')
  | apart {x : EStateM.Result ε (τ ω) α} {y : EStateM.Result ε (τ ω') α} :
      coupling.apart (sink (stateAfter x)) (sink (stateAfter y)) → Ends coupling x y

variable {coupling : Coupling ω ω'}

theorem Ends.inStep_or_apart {x : EStateM.Result ε (τ ω) α} {y : EStateM.Result ε (τ ω') α}
    (h : coupling.Ends x y) :
    (outcome x = outcome y ∧ coupling.InStep (stateAfter x) (stateAfter y)) ∨
      coupling.apart (sink (stateAfter x)) (sink (stateAfter y)) := by
  cases h with
  | ok value hstep => exact .inl ⟨rfl, hstep⟩
  | error fault hstep => exact .inl ⟨rfl, hstep⟩
  | apart hapart => exact .inr hapart

theorem InStep.ends {state : τ ω} {state' : τ ω'} (h : coupling.InStep state state')
    (ending : Except ε α) : coupling.Ends (endingIn state ending) (endingIn state' ending) := by
  cases ending with
  | ok value => exact .ok value h
  | error fault => exact .error fault h

theorem inStep_make (part : Rest τ) {held : ω} {held' : ω'} (h : coupling.inStep held held') :
    coupling.InStep (make part held : τ ω) (make part held' : τ ω') where
  rest_eq := by rw [rest_make, rest_make]
  sinks := by rwa [sink_make, sink_make]

end Coupling

/-- Begun in step, the two computations end alike or drive their sinks apart; and neither of them,
begun anywhere, brings sinks together again. -/
structure Lockstep (coupling : Coupling ω ω') (first : EStateM ε (τ ω) α)
    (second : EStateM ε (τ ω') α) : Prop where
  ends : ∀ state state', coupling.InStep state state' → coupling.Ends (first state) (second state')
  first_apart : Leads (fun before after => ∀ held', coupling.apart (sink before) held' →
    coupling.apart (sink after) held') first
  second_apart : Leads (fun before after => ∀ held, coupling.apart held (sink before) →
    coupling.apart held (sink after)) second

variable {coupling : Coupling ω ω'}

theorem lockstep_pure (value : α) :
    Lockstep coupling (pure value : EStateM ε (τ ω) α) (pure value : EStateM ε (τ ω') α) where
  ends _ _ hstep := .ok value hstep
  first_apart := leads_pure (fun _ _ hapart => hapart) value
  second_apart := leads_pure (fun _ _ hapart => hapart) value

theorem lockstep_throw (fault : ε) :
    Lockstep coupling (throw fault : EStateM ε (τ ω) α) (throw fault : EStateM ε (τ ω') α) where
  ends _ _ hstep := .error fault hstep
  first_apart := leads_throw (fun _ _ hapart => hapart) fault
  second_apart := leads_throw (fun _ _ hapart => hapart) fault

theorem Lockstep.bind {first : EStateM ε (τ ω) α} {second : EStateM ε (τ ω') α}
    {f : α → EStateM ε (τ ω) β} {g : α → EStateM ε (τ ω') β} (h : Lockstep coupling first second)
    (hnext : ∀ value, Lockstep coupling (f value) (g value)) :
    Lockstep coupling (first >>= f) (second >>= g) where
  ends state state' hstep := by
    have hends := h.ends state state' hstep
    change coupling.Ends (EStateM.bind first f state) (EStateM.bind second g state')
    unfold EStateM.bind
    generalize first state = x at hends
    generalize second state' = y at hends
    cases hends with
    | ok value hmiddle => exact (hnext value).ends _ _ hmiddle
    | error fault hmiddle => exact .error fault hmiddle
    | apart hapart =>
        -- The runs may have ended differently, and each goes on only if it was not broken off.
        refine .apart ?_
        cases x with
        | ok value middle =>
            have hfirst := (hnext value).first_apart middle _ hapart
            cases y with
            | ok value' middle' => exact (hnext value').second_apart middle' _ hfirst
            | error => exact hfirst
        | error =>
            cases y with
            | ok value' middle' => exact (hnext value').second_apart middle' _ hapart
            | error => exact hapart
  first_apart :=
    leads_bind (fun hfirst hsecond held hapart => hsecond held (hfirst held hapart)) h.first_apart
      fun value => (hnext value).first_apart
  second_apart :=
    leads_bind (fun hfirst hsecond held hapart => hsecond held (hfirst held hapart)) h.second_apart
      fun value => (hnext value).second_apart

/-- What is seen of a state without its sink is the same on both sides. -/
theorem lockstep_get_bind {f : τ ω → EStateM ε (τ ω) α} {g : τ ω' → EStateM ε (τ ω') α}
    (h : ∀ state state', rest state = rest state' → Lockstep coupling (f state) (g state')) :
    Lockstep coupling (get >>= f) (get >>= g) where
  ends state state' hstep := (h state state' hstep.rest_eq).ends state state' hstep
  first_apart state held' hapart :=
    (h state (make (rest state) held') (rest_make _ _).symm).first_apart state held' hapart
  second_apart state' held hapart :=
    (h (make (rest state') held) state' (rest_make _ _)).second_apart state' held hapart

theorem lockstep_writeTo (fault : ε) (text : String) :
    Lockstep coupling (writeTo fault text : EStateM ε (τ ω) Unit)
      (writeTo fault text : EStateM ε (τ ω') Unit) where
  ends state state' hstep := by
    rcases coupling.write_both text hstep.sinks with ⟨hflag, hsinks⟩ | hapart
    · unfold writeTo
      generalize Sink.write (sink state) text = first at hflag hsinks
      generalize Sink.write (sink state') text = second at hflag hsinks
      obtain ⟨held, taken⟩ := first
      obtain ⟨held', taken'⟩ := second
      obtain rfl : taken = taken' := hflag
      rw [hstep.rest_eq]
      cases taken with
      | true => exact .ok () (coupling.inStep_make _ hsinks)
      | false => exact .error fault (coupling.inStep_make _ hsinks)
    · refine .apart ?_
      rwa [sink_stateAfter_writeTo, sink_stateAfter_writeTo]
  first_apart state held' hapart := by
    rw [sink_stateAfter_writeTo]
    exact coupling.write_first text hapart
  second_apart state' held hapart := by
    rw [sink_stateAfter_writeTo]
    exact coupling.write_second text hapart

theorem lockstep_onRest (step : Rest τ → Except ε α × Rest τ) :
    Lockstep coupling (onRest step : EStateM ε (τ ω) α) (onRest step : EStateM ε (τ ω') α) where
  ends state state' hstep := by
    unfold onRest
    rw [hstep.rest_eq]
    exact (coupling.inStep_make _ hstep.sinks).ends _
  first_apart state held' hapart := by rwa [sink_stateAfter_onRest]
  second_apart state' held hapart := by rwa [sink_stateAfter_onRest]

theorem lockstep_within {υ : Type → Type} [Carrier υ] {ε' : Type} (view : Rest υ → Rest τ)
    (back : Rest υ → Rest τ → Rest υ) (finish : Except ε α → Except ε' β)
    {action : Rest υ → EStateM ε (τ ω) α} {action' : Rest υ → EStateM ε (τ ω') α}
    (h : ∀ part, Lockstep coupling (action part) (action' part)) :
    Lockstep coupling (within view back finish action : EStateM ε' (υ ω) β)
      (within view back finish action' : EStateM ε' (υ ω') β) where
  ends state state' hstep := by
    unfold within
    dsimp only
    rw [← hstep.rest_eq]
    have hinner := coupling.inStep_make (view (rest state)) hstep.sinks
    rcases ((h (rest state)).ends _ _ hinner).inStep_or_apart with ⟨houtcome, hafter⟩ | hapart
    · rw [houtcome, hafter.rest_eq]
      exact (coupling.inStep_make _ hafter.sinks).ends _
    · refine .apart ?_
      rwa [stateAfter_endingIn, stateAfter_endingIn, sink_make, sink_make]
  first_apart state held' hapart := by
    unfold within
    rw [stateAfter_endingIn, sink_make]
    apply (h (rest state)).first_apart
    rwa [sink_make]
  second_apart state' held hapart := by
    unfold within
    rw [stateAfter_endingIn, sink_make]
    apply (h (rest state')).second_apart
    rwa [sink_make]

end Runs

end Roundtable
