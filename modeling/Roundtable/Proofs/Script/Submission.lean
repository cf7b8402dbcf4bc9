import Roundtable.Proofs.Script.Grammar.Statements
import Roundtable.Script.Submission
/-!
A submission and a block of statements do the same with a source. Tokens that are an expression are
also a program, of that expression alone, and the other sources are run as programs anyway; so the
only difference is the value that a submission shows.
-/

namespace Roundtable.Script

open Roundtable.Script.Parser

section Programs

variable {tokens : List Token} {e : Expr}

theorem pieces_newlines (k : Nat) : pieces (List.replicate k .newline) = [] := by
  induction k with
  | zero => rfl
  | succ k ih =>
      rw [List.replicate_succ, pieces_cons_of_separator rfl]
      exact ih

/-- Tokens that are an expression are the program of that expression. -/
theorem Statement.ofTokens_of_expr (h : Expr.ofTokens tokens = .ok e) :
    Statement.ofTokens tokens = .ok [.expr e] := by
  obtain ⟨k, hrun⟩ := Expr.run_of_ofTokens h
  obtain ⟨w, rfl, hw⟩ := nested_sound maxNesting .expression hrun
  obtain ⟨token, after, hhead, -⟩ := hw.opens (by decide)
  have hne : w ≠ [] := by
    rw [hhead]
    exact List.cons_ne_nil token after
  have hnewlines : Ended (List.replicate k Token.newline) := by cases k <;> trivial
  rw [Statement.ofTokens_eq_ok_iff, pieces_append hw.unseparated hne hnewlines, pieces_newlines]
  exact .cons (.expr (Expr.ofTokens_of_derives hw)) .nil

theorem readProgram_of_tokens {source : String} (h : readTokens source = .ok tokens) :
    readProgram source = (Statement.ofTokens tokens).mapError ScriptFault.syntactic := by
  unfold readProgram
  rw [h]
  rfl

end Programs

section Executions

variable {ω : Type}

theorem asScript_map {α β : Type} (f : α → β) (execution : ExecutionOn ω RuntimeFault α) :
    Execution.asScript (f <$> execution) = f <$> Execution.asScript execution := by
  funext machine
  show Execution.asScript (EStateM.map f execution) machine =
    EStateM.map f (Execution.asScript execution) machine
  unfold Execution.asScript EStateM.map
  dsimp only
  cases execution machine <;> rfl

variable [Sink ω] (room : Room)

theorem run_expr (e : Expr) :
    (run room [.expr e] : ExecutionOn ω RuntimeFault Unit) =
      (fun _ => ()) <$> Execution.evaluate room e := by
  funext machine
  show EStateM.bind (execute room (.expr e)) _ machine = EStateM.map _ _ machine
  unfold execute EStateM.map
  show EStateM.bind (EStateM.bind (Execution.evaluate room e) _) _ machine = _
  unfold EStateM.bind
  cases Execution.evaluate room e machine <;> rfl

variable (source : String)

theorem executeSubmission_of_fault {fault : ScriptFault} (hread : readTokens source = .error fault) :
    (executeSubmission room source : ExecutionOn ω ScriptFault (Option Value)) = throw fault := by
  unfold executeSubmission
  rw [hread]
  rfl

theorem executeSubmission_of_expr {tokens : List Token} {e : Expr}
    (hread : readTokens source = .ok tokens) (hparse : Expr.ofTokens tokens = .ok e) :
    (executeSubmission room source : ExecutionOn ω ScriptFault (Option Value)) =
      (fun value => if value = .none then none else some value) <$>
        Execution.asScript (Execution.evaluate room e) := by
  unfold executeSubmission
  rw [hread]
  simp only [Execution.ofExcept, hparse, pure_bind]
  exact bind_pure_comp _ _

theorem executeSubmission_of_program {tokens : List Token} {fault : SyntaxFault}
    (hread : readTokens source = .ok tokens) (hparse : Expr.ofTokens tokens = .error fault) :
    (executeSubmission room source : ExecutionOn ω ScriptFault (Option Value)) =
      (fun _ => none) <$> executeBlock room source := by
  unfold executeSubmission executeBlock
  rw [hread, readProgram_of_tokens hread]
  simp only [Execution.ofExcept, hparse, pure_bind]
  cases (Statement.ofTokens tokens).mapError ScriptFault.syntactic with
  | error broken => rfl
  | ok program =>
      simp only [pure_bind]
      exact bind_pure_comp _ _

/-- A block is a submission whose value is dropped. -/
theorem executeBlock_eq_map :
    (executeBlock room source : ExecutionOn ω ScriptFault Unit) =
      (fun _ => ()) <$> executeSubmission room source := by
  cases hread : readTokens source with
  | error fault =>
      rw [executeSubmission_of_fault room source hread]
      unfold executeBlock readProgram
      rw [hread]
      rfl
  | ok tokens =>
      cases hparse : Expr.ofTokens tokens with
      | ok e =>
          rw [executeSubmission_of_expr room source hread hparse, Functor.map_map, ← asScript_map,
            ← run_expr]
          unfold executeBlock
          rw [readProgram_of_tokens hread, Statement.ofTokens_of_expr hparse]
          rfl
      | error fault =>
          rw [executeSubmission_of_program room source hread hparse, Functor.map_map]
          exact (id_map' (executeBlock room source)).symm

theorem executeSubmission_some_iff (machine after : Machine ω) (value : Value) :
    executeSubmission room source machine = .ok (some value) after ↔
      ∃ tokens e, readTokens source = .ok tokens ∧ Expr.ofTokens tokens = .ok e ∧
        Execution.evaluate room e machine = .ok value after ∧ value ≠ .none := by
  constructor
  · intro h
    cases hread : readTokens source with
    | error fault =>
        rw [executeSubmission_of_fault room source hread] at h
        cases h
    | ok tokens =>
        cases hparse : Expr.ofTokens tokens with
        | ok e =>
            refine ⟨tokens, e, rfl, hparse, ?_⟩
            rw [executeSubmission_of_expr room source hread hparse] at h
            change EStateM.map _ (Execution.asScript (Execution.evaluate room e)) machine = _ at h
            unfold EStateM.map Execution.asScript at h
            dsimp only at h
            cases heval : Execution.evaluate room e machine with
            | ok found left =>
                rw [heval] at h
                injection h with hvalue hafter
                split at hvalue
                · cases hvalue
                · rename_i hnone
                  cases hvalue
                  exact ⟨by rw [hafter], hnone⟩
            | error fault left =>
                rw [heval] at h
                cases h
        | error fault =>
            rw [executeSubmission_of_program room source hread hparse] at h
            change EStateM.map _ (executeBlock room source) machine = _ at h
            unfold EStateM.map at h
            split at h <;> cases h
  · rintro ⟨tokens, e, hread, hparse, heval, hnone⟩
    rw [executeSubmission_of_expr room source hread hparse]
    show EStateM.map _ (Execution.asScript (Execution.evaluate room e)) machine = _
    unfold EStateM.map Execution.asScript
    dsimp only
    rw [heval]
    dsimp only
    rw [if_neg hnone]

/-- A block and a submission agree on every source: the same faults, the same bindings, the same
lists and the same output. A submission gives a value exactly when the tokens are an expression that
comes to something. -/
theorem executeBlock_agrees :
    (executeBlock room source : ExecutionOn ω ScriptFault Unit) =
      (fun _ => ()) <$> executeSubmission room source ∧
    ∀ (machine after : Machine ω) (value : Value),
      executeSubmission room source machine = .ok (some value) after ↔
        ∃ tokens e, readTokens source = .ok tokens ∧ Expr.ofTokens tokens = .ok e ∧
          Execution.evaluate room e machine = .ok value after ∧ value ≠ .none :=
  ⟨executeBlock_eq_map room source, executeSubmission_some_iff room source⟩

end Executions

end Roundtable.Script
