import Mathlib.Logic.Relation
import Roundtable.Output
/-!
Computations on a state, seen from the state they leave. A computation that is broken off leaves a
state too, and what is said here of that state does not depend on how the computation ended.

Two facts about sinks go with this: which sinks are reached from one by writing alone, and when the
last of these writes has failed.
-/

namespace Roundtable

section State

variable {ε τ α β : Type}

/-- The state at the end of a computation, broken off or not. -/
def stateAfter : EStateM.Result ε τ α → τ
  | .ok _ state => state
  | .error _ state => state

/-- The value or the fault that a computation ends in. -/
def outcome : EStateM.Result ε τ α → Except ε α
  | .ok value _ => .ok value
  | .error fault _ => .error fault

theorem outcome_eq_ok {result : EStateM.Result ε τ α} {value : α} :
    outcome result = .ok value ↔ ∃ state, result = .ok value state := by
  cases result <;> simp [outcome]

theorem get_bind_apply (next : τ → EStateM ε τ β) (state : τ) :
    (get >>= next) state = next state state :=
  rfl

/-- Whatever state the computation begins in, the one it leaves is related to it. -/
def Leads (relation : τ → τ → Prop) (action : EStateM ε τ α) : Prop :=
  ∀ state, relation state (stateAfter (action state))

theorem bind_of_ok {action : EStateM ε τ α} {state after : τ} {value : α}
    (h : action state = .ok value after) (next : α → EStateM ε τ β) :
    (action >>= next) state = next value after := by
  show EStateM.bind action next state = _
  rw [EStateM.bind, h]

section Bind

variable {action : EStateM ε τ α} {next : α → EStateM ε τ β} {state after : τ} {value : β} {fault : ε}

theorem bind_eq_ok : (action >>= next) state = .ok value after ↔
    ∃ found middle, action state = .ok found middle ∧ next found middle = .ok value after := by
  show EStateM.bind action next state = _ ↔ _
  unfold EStateM.bind
  cases action state <;> simp [and_assoc]

theorem bind_eq_error : (action >>= next) state = .error fault after ↔
    action state = .error fault after ∨
      ∃ found middle, action state = .ok found middle ∧ next found middle = .error fault after := by
  show EStateM.bind action next state = _ ↔ _
  unfold EStateM.bind
  cases action state <;> simp [and_assoc]

end Bind

variable {relation : τ → τ → Prop}

theorem leads_pure (hrefl : ∀ state, relation state state) (value : α) :
    Leads relation (pure value : EStateM ε τ α) :=
  fun state => hrefl state

theorem leads_throw (hrefl : ∀ state, relation state state) (fault : ε) :
    Leads relation (throw fault : EStateM ε τ α) :=
  fun state => hrefl state

theorem leads_get_bind {next : τ → EStateM ε τ β} (hnext : ∀ seen, Leads relation (next seen)) :
    Leads relation (get >>= next) :=
  fun state => hnext state state

/-- The second computation runs only if the first was not broken off, so its relation has to
absorb nothing: `first` alone must already be inside `whole`. -/
theorem leads_bind_of_comp {first second whole : τ → τ → Prop}
    {action : EStateM ε τ α} {next : α → EStateM ε τ β}
    (haction : Leads first action) (hnext : ∀ value, Leads second (next value))
    (hbroken : ∀ {a b}, first a b → whole a b)
    (hcomp : ∀ {a b c}, first a b → second b c → whole a c) :
    Leads whole (action >>= next) := by
  intro state
  have hfirst := haction state
  show whole state (stateAfter (EStateM.bind action next state))
  unfold EStateM.bind
  cases hrun : action state with
  | ok value middle =>
    rw [hrun] at hfirst
    exact hcomp hfirst (hnext value middle)
  | error fault middle =>
    rw [hrun] at hfirst
    exact hbroken hfirst

theorem leads_bind (htrans : ∀ {a b c}, relation a b → relation b c → relation a c)
    {action : EStateM ε τ α} {next : α → EStateM ε τ β}
    (haction : Leads relation action) (hnext : ∀ value, Leads relation (next value)) :
    Leads relation (action >>= next) :=
  leads_bind_of_comp haction hnext id htrans

end State

namespace Sink

variable {ω : Type} [Sink ω]

/-- The second sink is the first after any number of writes. -/
def Reaches (before after : ω) : Prop :=
  Relation.ReflTransGen (fun sink next => ∃ text, next = (write sink text).1) before after

/-- Writes lead from one sink to the other, and the last of them has failed. -/
def Fails (before after : ω) : Prop :=
  ∃ sink text, Reaches before sink ∧ write sink text = (after, false)

theorem reaches_refl (sink : ω) : Reaches sink sink :=
  Relation.ReflTransGen.refl

theorem reaches_write (sink : ω) (text : String) : Reaches sink (write sink text).1 :=
  Relation.ReflTransGen.single ⟨text, rfl⟩

theorem Reaches.trans {first second third : ω} (hfirst : Reaches first second)
    (hsecond : Reaches second third) : Reaches first third :=
  Relation.ReflTransGen.trans hfirst hsecond

theorem Fails.of_reaches {before middle after : ω} (hreach : Reaches before middle)
    (hfail : Fails middle after) : Fails before after := by
  obtain ⟨sink, text, hsink, hwrite⟩ := hfail
  exact ⟨sink, text, hreach.trans hsink, hwrite⟩

end Sink

/-! An output that counts bytes only adds to them. -/

theorem Output.written_prefix_write (output : Output) (text : String) :
    output.written.data.toList <+: (output.write text).1.written.data.toList := by
  obtain ⟨written, _ | room⟩ := output
  · exact ⟨text.toUTF8.data.toList, by simp [write]⟩
  · unfold write
    dsimp only
    split
    · exact ⟨text.toUTF8.data.toList, by simp⟩
    · exact ⟨(text.toUTF8.extract 0 room).data.toList, by simp⟩

theorem Output.written_prefix_of_reaches {before after : Output}
    (h : Sink.Reaches before after) :
    before.written.data.toList <+: after.written.data.toList := by
  induction h with
  | refl => exact List.prefix_rfl
  | tail _ hstep ih =>
      obtain ⟨text, rfl⟩ := hstep
      exact ih.trans (Output.written_prefix_write _ text)

end Roundtable
