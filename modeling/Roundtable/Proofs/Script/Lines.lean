import Roundtable.Proofs.Script.Submission
import Roundtable.Proofs.Script.Token.Lines
/-!
Scripts line by line. A text that is a program leaves nothing open at its end: no bracket, since its
statements close theirs, and no statement, since the line feed behind it ends the last one. So a
text of two such parts is the program of the one and then that of the other, and running it is
running the one and then the other; where the second part has no program, nothing runs.
-/

namespace Roundtable.Script

open Roundtable.Script.Parser

/-! ### Brackets -/

section Brackets

variable {tokens piece w v : List Token}

/-- As many brackets are closed as are opened. -/
def Balanced (tokens : List Token) : Prop :=
  closings tokens = openings tokens

theorem Balanced.append (hw : Balanced w) (hv : Balanced v) : Balanced (w ++ v) := by
  unfold Balanced closings openings at *
  rw [List.countP_append, List.countP_append, hw, hv]

theorem Balanced.cons {token : Token} (htoken : Balanced [token]) (hv : Balanced v) :
    Balanced (token :: v) :=
  htoken.append hv

/-- An opening bracket and a closing one around balanced tokens. -/
theorem Balanced.enclosed {first last : Token} (hw : Balanced w)
    (hfirst : openings [first] = 1 ∧ closings [first] = 0)
    (hlast : openings [last] = 0 ∧ closings [last] = 1) :
    Balanced (first :: w ++ [last]) := by
  unfold Balanced at *
  rw [openings_concat, closings_concat, hlast.1, hlast.2]
  have hopen : openings ([first] ++ w) = openings [first] + openings w := List.countP_append
  have hclose : closings ([first] ++ w) = closings [first] + closings w := List.countP_append
  rw [List.singleton_append] at hopen hclose
  omega

theorem BinaryOp.balanced_sign (op : BinaryOp) : Balanced [.symbol op.sign] := by
  cases op <;> rfl

theorem UnaryOp.balanced_sign (op : UnaryOp) : Balanced [op.sign] := by
  cases op <;> rfl

theorem CompareOp.balanced_signs (op : CompareOp) : Balanced op.signs := by
  cases op <;> rfl

theorem Assigns.balanced {sign : Symbol} {make : Target → Expr → Statement}
    (h : Assigns sign make) : Balanced [.symbol sign] := by
  cases h <;> rfl

theorem Derives.balanced {n : Nat} {phrase : Phrase} {value : phrase.Value}
    (h : Derives n phrase w value) : Balanced w := by
  induction h with
  | literal hliteral => cases hliteral <;> rfl
  | noItems => rfl
  | or _ _ iha ihb | and _ _ iha ihb | pow _ _ iha ihb | item _ _ iha ihb =>
      exact iha.append (.cons rfl ihb)
  | sum _ _ _ iha ihb | product _ _ _ iha ihb =>
      exact iha.append (.cons (BinaryOp.balanced_sign _) ihb)
  | further _ _ iha ihb => exact (iha.append (CompareOp.balanced_signs _)).append ihb
  | not _ ih => exact .cons rfl ih
  | sign _ _ ih => exact .cons (UnaryOp.balanced_sign _) ih
  | call _ _ iha ihb =>
      rw [List.append_assoc]
      exact iha.append (ihb.enclosed ⟨rfl, rfl⟩ ⟨rfl, rfl⟩)
  | index _ _ iha ihb =>
      rw [List.append_assoc]
      exact iha.append (ihb.enclosed ⟨rfl, rfl⟩ ⟨rfl, rfl⟩)
  | member _ ih => exact ih.append rfl
  | parentheses _ ih => exact ih.enclosed ⟨rfl, rfl⟩ ⟨rfl, rfl⟩
  | list _ ih => exact ih.enclosed ⟨rfl, rfl⟩ ⟨rfl, rfl⟩
  | expression _ ih | negated _ ih | signed _ ih | conjunction _ ih | negation _ ih
  | comparison _ ih | compared _ ih | first _ ih | term _ ih | unary _ ih | power _ ih
  | postfixed _ ih | atom _ ih | lastItem _ ih => exact ih

theorem Statement.MadeOf.balanced {value : Statement} (h : MadeOf piece value)
    (hpiece : Unseparated piece) : Balanced piece := by
  have hexpr {part : List Token} {e : Expr} (hread : Expr.ofTokens part = .ok e)
      (hpart : ∀ token ∈ part, token ∈ piece) : Balanced part :=
    (Expr.derives_of_ofTokens hread fun token htoken => hpiece token (hpart token htoken)).balanced
  cases h with
  | pass => rfl
  | delete => rfl
  | expr hread => exact hexpr hread fun _ => id
  | assignName hsign hleft hright | assignItem hsign hleft hright =>
      exact (hexpr hleft (by simp +contextual)).append
        (.cons hsign.balanced (hexpr hright (by simp +contextual)))

/-- Tokens that are a program leave no bracket open. -/
theorem Statement.balanced_of_ofTokens {program : List Statement}
    (h : Statement.ofTokens tokens = .ok program) : Balanced tokens := by
  have hpieces := exists_forall₂_iff.1 ⟨program, Statement.ofTokens_eq_ok_iff.1 h⟩
  clear h
  induction tokens using pieces_induction with
  | nil => rfl
  | separator token after hseparator ih =>
      rw [pieces_cons_of_separator hseparator] at hpieces
      have htoken : Balanced [token] := by
        rcases eq_of_isSeparator hseparator with rfl | rfl <;> rfl
      exact .cons htoken (ih hpieces)
  | piece w rest hw hne hrest ih =>
      rw [pieces_append hw hne hrest] at hpieces
      obtain ⟨value, hmade⟩ := hpieces w List.mem_cons_self
      exact (hmade.balanced hw).append
        (ih fun piece hpiece => hpieces piece (List.mem_cons_of_mem w hpiece))

end Brackets

/-! ### Programs -/

section Programs

variable {first : String} {tokens : List Token} {program : List Statement}

theorem Statement.ofTokens_append (h : Statement.ofTokens tokens = .ok program)
    (after : List Token) :
    Statement.ofTokens (tokens ++ .newline :: after) =
      (Statement.ofTokens after).map (program ++ ·) := by
  unfold Statement.ofTokens at *
  rw [statementsFrom_append h rfl, statementsFrom_program]

theorem readProgram_eq_ok (h : readProgram first = .ok program) :
    ∃ tokens, tokensOf first = .ok tokens ∧ Statement.ofTokens tokens = .ok program := by
  unfold readProgram readTokens at h
  cases htokens : tokensOf first with
  | error fault =>
      rw [htokens] at h
      cases h
  | ok tokens =>
      rw [htokens] at h
      refine ⟨tokens, rfl, ?_⟩
      change (Statement.ofTokens tokens).mapError _ = _ at h
      cases hprogram : Statement.ofTokens tokens with
      | error fault =>
          rw [hprogram] at h
          cases h
      | ok statements =>
          rw [hprogram] at h
          cases h
          rfl

/-- A program and a further text behind a line feed are the program and the statements of that
text, or what keeps that text from being a program. -/
theorem readProgram_line (h : readProgram first = .ok program) (second : String) :
    readProgram (first ++ "\n" ++ second) = (readProgram second).map (program ++ ·) := by
  obtain ⟨tokens, htokens, hprogram⟩ := readProgram_eq_ok h
  have hline := tokensOf_line htokens (Statement.balanced_of_ofTokens hprogram) second
  unfold readProgram readTokens
  rw [hline]
  cases tokensOf second with
  | error fault => rfl
  | ok after =>
      show (Statement.ofTokens (tokens ++ .newline :: after)).mapError _ =
        ((Statement.ofTokens after).mapError _).map _
      rw [Statement.ofTokens_append hprogram]
      cases Statement.ofTokens after <;> rfl

end Programs

/-! ### Runs -/

section Runs

variable {ω : Type}

theorem asScript_bind {α β : Type} (execution : ExecutionOn ω RuntimeFault α)
    (next : α → ExecutionOn ω RuntimeFault β) :
    Execution.asScript (execution >>= next) =
      Execution.asScript execution >>= fun value => Execution.asScript (next value) := by
  funext machine
  show Execution.asScript (EStateM.bind execution next) machine =
    EStateM.bind (Execution.asScript execution) _ machine
  unfold Execution.asScript EStateM.bind
  dsimp only
  cases execution machine <;> rfl

variable [Sink ω] (room : Room)

theorem run_append (program rest : List Statement) :
    (run room (program ++ rest) : ExecutionOn ω RuntimeFault Unit) =
      run room program >>= fun _ => run room rest := by
  induction program with
  | nil => rfl
  | cons statement program ih =>
      rw [List.cons_append, run, run, ih]
      exact (bind_assoc _ _ _).symm

theorem executeBlock_of_program {source : String} {program : List Statement}
    (h : readProgram source = .ok program) :
    (executeBlock room source : ExecutionOn ω ScriptFault Unit) =
      Execution.asScript (run room program) := by
  unfold executeBlock
  rw [h]
  rfl

theorem executeBlock_of_fault {source : String} {fault : ScriptFault}
    (h : readProgram source = .error fault) :
    (executeBlock room source : ExecutionOn ω ScriptFault Unit) = throw fault := by
  unfold executeBlock
  rw [h]
  rfl

/-- A text whose first part is a program does as its second part where that is no program: the same
fault, on an unchanged machine. Where it is one, the text runs the first part and then, if that came
to its end, the second. -/
theorem executeBlock_line {first : String} {program : List Statement}
    (h : readProgram first = .ok program) (second : String) :
    (∀ fault, readProgram second = .error fault → ∀ machine : Machine ω,
      executeBlock room second machine = .error fault machine ∧
        executeBlock room (first ++ "\n" ++ second) machine = .error fault machine) ∧
    ((∃ rest, readProgram second = .ok rest) →
      (executeBlock room (first ++ "\n" ++ second) : ExecutionOn ω ScriptFault Unit) = do
        executeBlock room first
        executeBlock room second) := by
  have hline := readProgram_line h second
  constructor
  · intro fault hfault machine
    rw [hfault] at hline
    rw [executeBlock_of_fault room hfault, executeBlock_of_fault room hline]
    exact ⟨rfl, rfl⟩
  · rintro ⟨rest, hrest⟩
    rw [hrest] at hline
    rw [executeBlock_of_program room h, executeBlock_of_program room hrest,
      executeBlock_of_program room hline, run_append]
    exact asScript_bind _ _

/-- The first part ends in a comment. Behind it one text has no program, and another has. -/
theorem executeBlock_line_of_comment :
    let room : Room := ⟨∅, ∅⟩
    readProgram "x = [] # [" = .ok [.assign (.name "x") (.list [])] ∧
    (∀ machine : Machine, executeBlock room ("x = [] # [" ++ "\n" ++ "]") machine =
      .error (.lexical (.unmatchedBracket ']')) machine) ∧
    (executeBlock room ("x = [] # [" ++ "\n" ++ "y = x") : Execution ScriptFault Unit) = (do
      executeBlock room "x = [] # ["
      executeBlock room "y = x") := by
  intro room
  have hword (word : String) : Expr.ofTokens [.name word] = .ok (.name word) :=
    Expr.ofTokens_of_derives (.expression_of_atom (.literal (.name word)))
  have hlist : Expr.ofTokens [.symbol .leftBracket, .symbol .rightBracket] = .ok (.list []) :=
    Expr.ofTokens_of_derives (.expression_of_atom (.list .noItems))
  have hassign (source name : String) {right : List Token} {value : Expr}
      (hright : Expr.ofTokens right = .ok value)
      (hpiece : pieces (.name name :: .symbol .assign :: right) =
        [.name name :: .symbol .assign :: right])
      (htokens : readTokens source = .ok (.name name :: .symbol .assign :: right)) :
      readProgram source = .ok [.assign (.name name) value] := by
    have hmade := Statement.MadeOf.assignName .plain (hword name) hright
    rw [readProgram_of_tokens htokens,
      Statement.ofTokens_eq_ok_iff.2 (hpiece ▸ List.Forall₂.cons hmade .nil)]
    rfl
  have hx := hassign "x = [] # [" "x" hlist (by decide +kernel) (by decide +kernel)
  have hy := hassign "y = x" "y" (hword "x") (by decide +kernel) (by decide +kernel)
  have hbracket : readProgram "]" = .error (.lexical (.unmatchedBracket ']')) := by
    have htokens : readTokens "]" = .error (.lexical (.unmatchedBracket ']')) := by
      decide +kernel
    unfold readProgram
    rw [htokens]
    rfl
  exact ⟨hx, fun machine => ((executeBlock_line room hx "]").1 _ hbracket machine).2,
    (executeBlock_line room hx "y = x").2 ⟨_, hy⟩⟩

end Runs

end Roundtable.Script
