import Mathlib.Data.Option.Basic
import Mathlib.Order.Basic
import Roundtable.Proofs.Effect
/-!
Two computations side by side. Both come to the same fault, or both to a value and the values are
related. Where they work on a state, what relates the two states may come to relate more of them as
the computations go on, but never less: a place in an order says how much is related now, and each
later step may move up from it.
-/

namespace Roundtable

/-- Two results are the same fault, or values that are related. -/
inductive Outcomes {ε α β : Type} (related : α → β → Prop) : Except ε α → Except ε β → Prop where
  | ok {a b} : related a b → Outcomes related (.ok a) (.ok b)
  | error (fault : ε) : Outcomes related (.error fault) (.error fault)

namespace Outcomes

variable {ε α β γ δ : Type} {related : α → β → Prop} {other : γ → δ → Prop} {x : Except ε α}
  {y : Except ε β}

theorem bind {f : α → Except ε γ} {g : β → Except ε δ} (h : Outcomes related x y)
    (hnext : ∀ a b, related a b → Outcomes other (f a) (g b)) :
    Outcomes other (x >>= f) (y >>= g) := by
  cases h with
  | ok hrelated => exact hnext _ _ hrelated
  | error fault => exact .error fault

theorem map {f : α → γ} {g : β → δ} (h : Outcomes related x y)
    (hmap : ∀ a b, related a b → other (f a) (g b)) : Outcomes other (f <$> x) (g <$> y) := by
  cases h with
  | ok hrelated => exact .ok (hmap _ _ hrelated)
  | error fault => exact .error fault

/-- One and the same result, whose value is related to itself. -/
theorem refl {related : α → α → Prop} {x : Except ε α} (h : ∀ a, x = .ok a → related a a) :
    Outcomes related x x := by
  cases x with
  | ok a => exact .ok (h a rfl)
  | error fault => exact .error fault

theorem of_option {x : Option α} {y : Option β} (h : Option.Rel related x y) (fault : ε) :
    Outcomes related (x.elim (.error fault) .ok) (y.elim (.error fault) .ok) := by
  cases h with
  | none => exact .error fault
  | some hrelated => exact .ok hrelated

end Outcomes

section Runs

variable {W ε τ α β : Type} [Preorder W]

/-- Two runs end in related states, with the same fault or with related values. The place where
they end is at or above the one they began at. -/
inductive Endings (state : W → τ → τ → Prop) (related : W → α → α → Prop) (now : W) :
    EStateM.Result ε τ α → EStateM.Result ε τ α → Prop where
  | ok {later : W} {a b : α} {s t : τ} : now ≤ later → related later a b → state later s t →
      Endings state related now (.ok a s) (.ok b t)
  | error {later : W} {s t : τ} (fault : ε) : now ≤ later → state later s t →
      Endings state related now (.error fault s) (.error fault t)

/-- How the values of two runs are related that do nothing but change their states. -/
abbrev Done (_ : W) (_ _ : Unit) : Prop :=
  True

/-- Begun in related states, the two computations end alike. -/
def Together (state : W → τ → τ → Prop) (related : W → α → α → Prop) (now : W)
    (first second : EStateM ε τ α) : Prop :=
  ∀ s t, state now s t → Endings state related now (first s) (second t)

namespace Endings

variable {state : W → τ → τ → Prop} {related : W → α → α → Prop} {now later : W}
  {x y : EStateM.Result ε τ α}

theorem of_le (hle : now ≤ later) (h : Endings state related later x y) :
    Endings state related now x y := by
  cases h with
  | ok hlater hrelated hstate => exact .ok (hle.trans hlater) hrelated hstate
  | error fault hlater hstate => exact .error fault (hle.trans hlater) hstate

/-- Broken off or not, two runs that end alike leave related states. -/
theorem exists_stateAfter (h : Endings state related now x y) :
    ∃ later, now ≤ later ∧ state later (stateAfter x) (stateAfter y) := by
  cases h with
  | ok hlater _ hstate => exact ⟨_, hlater, hstate⟩
  | error fault hlater hstate => exact ⟨_, hlater, hstate⟩

theorem outcome_eq (h : Endings state (fun _ => Eq) now x y) : outcome x = outcome y := by
  cases h with
  | ok _ heq _ => exact congrArg Except.ok heq
  | error => rfl

end Endings

variable {state : W → τ → τ → Prop} {related : W → α → α → Prop} {other : W → β → β → Prop}
  {now : W}

theorem together_pure {a b : α} (h : related now a b) :
    Together state related now (pure a : EStateM ε τ α) (pure b) :=
  fun _ _ hstate => .ok le_rfl h hstate

theorem together_throw (fault : ε) :
    Together state related now (throw fault : EStateM ε τ α) (throw fault) :=
  fun _ _ hstate => .error fault le_rfl hstate

/-- What comes second has to end alike from where these two runs of the first have come to. -/
theorem Endings.bind {first second : EStateM ε τ α} {f g : α → EStateM ε τ β} {s t : τ}
    (h : Endings state related now (first s) (second t))
    (hnext : ∀ later a b s' t', now ≤ later → related later a b → state later s' t' →
      first s = .ok a s' → second t = .ok b t' → Endings state other now (f a s') (g b t')) :
    Endings state other now ((first >>= f) s) ((second >>= g) t) := by
  show Endings state other now (EStateM.bind first f s) (EStateM.bind second g t)
  unfold EStateM.bind
  generalize first s = x at h hnext
  generalize second t = y at h hnext
  cases h with
  | ok hlater hrelated hmiddle => exact hnext _ _ _ _ _ hlater hrelated hmiddle rfl rfl
  | error fault hlater hmiddle => exact .error fault hlater hmiddle

/-- What comes second begins at a later place, so it has to go together from all of them. -/
theorem Together.bind {first second : EStateM ε τ α} {f g : α → EStateM ε τ β}
    (h : Together state related now first second)
    (hnext : ∀ later, now ≤ later → ∀ a b, related later a b →
      Together state other later (f a) (g b)) :
    Together state other now (first >>= f) (second >>= g) :=
  fun s t hstate => (h s t hstate).bind fun later a b s' t' hlater hrelated hmiddle _ _ =>
    (hnext later hlater a b hrelated s' t' hmiddle).of_le hlater

/-- What is answered in the end does not depend on the values. -/
theorem Together.answer {first second : EStateM ε τ α} (h : Together state related now first second)
    (b : β) : Together state (fun _ => Eq) now (first >>= fun _ => pure b)
      (second >>= fun _ => pure b) :=
  h.bind fun _ _ _ _ _ => together_pure rfl

theorem together_get_bind {f g : τ → EStateM ε τ α}
    (h : ∀ s t, state now s t → Together state related now (f s) (g t)) :
    Together state related now (get >>= f) (get >>= g) :=
  fun s t hstate => h s t hstate s t hstate

end Runs

end Roundtable
