import Roundtable.Proofs.Itemwise
import Roundtable.Proofs.Script.Grammar.Expressions
/-!
Programs, piece by piece. Separators cut the tokens into pieces, and a program has one statement for
each piece that is not empty, in the same order. This rests on what an expression cannot hold: no
separator and no sign of assignment. So a statement ends where its piece does, with all the levels of
nesting for itself, whatever stands before it and behind.
-/

namespace Roundtable.Script

open Roundtable.Script.Parser

/-- The tokens between the separators, without empty pieces. -/
def pieces (tokens : List Token) : List (List Token) :=
  (tokens.splitOnP isSeparator).filter (· ≠ [])

/-- The signs of assignment, each with the statement that it makes of a target and a value. -/
inductive Assigns : Symbol → (Target → Expr → Statement) → Prop where
  | plain : Assigns .assign .assign
  | add : Assigns .plusAssign (.augAssign .add)
  | sub : Assigns .minusAssign (.augAssign .sub)
  | mul : Assigns .starAssign (.augAssign .mul)
  | div : Assigns .slashAssign (.augAssign .div)

/-- The tokens of one piece make up the statement. -/
inductive Statement.MadeOf : List Token → Statement → Prop where
  | pass : MadeOf [.keyword .pass] .pass
  | delete (word : String) : MadeOf [.keyword .del, .name word] (.delete word)
  | expr {piece e} : Expr.ofTokens piece = .ok e → MadeOf piece (.expr e)
  | assignName {left right sign make word value} : Assigns sign make →
      Expr.ofTokens left = .ok (.name word) → Expr.ofTokens right = .ok value →
      MadeOf (left ++ .symbol sign :: right) (make (.name word) value)
  | assignItem {left right sign make container position value} : Assigns sign make →
      Expr.ofTokens left = .ok (.index container position) → Expr.ofTokens right = .ok value →
      MadeOf (left ++ .symbol sign :: right) (make (.index container position) value)

/-! ### What an expression holds -/

/-- Whether a token can be part of an expression. -/
def Token.isOfExpression : Token → Bool
  | .newline | .keyword .del | .keyword .pass => false
  | .symbol .semicolon | .symbol .assign | .symbol .plusAssign | .symbol .minusAssign
  | .symbol .starAssign | .symbol .slashAssign => false
  | _ => true

section Expressions

variable {n : Nat} {w piece : List Token} {e : Expr}

theorem UnaryOp.isOfExpression_sign (op : UnaryOp) : op.sign.isOfExpression = true := by
  cases op <;> rfl

theorem BinaryOp.isOfExpression_sign (op : BinaryOp) :
    (Token.symbol op.sign).isOfExpression = true := by
  cases op <;> rfl

theorem CompareOp.isOfExpression_signs (op : CompareOp) :
    op.signs.all Token.isOfExpression = true := by
  cases op <;> rfl

theorem Literal.isOfExpression {token : Token} (h : Literal token e) :
    token.isOfExpression = Bool.true := by
  cases h <;> rfl

theorem Derives.isOfExpression {phrase : Phrase} {value : phrase.Value}
    (h : Derives n phrase w value) : w.all Token.isOfExpression = true := by
  induction h with
  | literal hliteral => rw [List.all_cons, hliteral.isOfExpression]; rfl
  | noItems => rfl
  | or _ _ iha ihb | and _ _ iha ihb | pow _ _ iha ihb | call _ _ iha ihb | index _ _ iha ihb
  | item _ _ iha ihb => simp [iha, ihb, Token.isOfExpression]
  | sum _ _ _ iha ihb | product _ _ _ iha ihb =>
      simp [iha, ihb, BinaryOp.isOfExpression_sign]
  | further _ _ iha ihb => simp [iha, ihb, CompareOp.isOfExpression_signs]
  | sign _ _ ih => simp [ih, UnaryOp.isOfExpression_sign]
  | not _ ih | member _ ih | parentheses _ ih | list _ ih => simp [ih, Token.isOfExpression]
  | expression _ ih | negated _ ih | signed _ ih | conjunction _ ih | negation _ ih
  | comparison _ ih | compared _ ih | first _ ih | term _ ih | unary _ ih | power _ ih
  | postfixed _ ih | atom _ ih | lastItem _ ih => exact ih

/-- No token of these stands between statements. -/
def Unseparated (tokens : List Token) : Prop :=
  ∀ token ∈ tokens, isSeparator token = false

theorem isSeparator_of_isOfExpression {token : Token} (h : token.isOfExpression = true) :
    isSeparator token = false := by
  unfold isSeparator
  rw [Bool.or_eq_false_iff]
  constructor
  · apply decide_eq_false
    rintro rfl
    cases h
  · apply decide_eq_false
    rintro rfl
    cases h

theorem Derives.unseparated (h : Derives n .expression w e) : Unseparated w := fun token htoken =>
  isSeparator_of_isOfExpression (List.all_eq_true.1 h.isOfExpression token htoken)

theorem Expr.ofTokens_of_derives (h : Derives maxNesting .expression w e) :
    Expr.ofTokens w = .ok e := by
  rcases h.reads maxNesting [] Nat.zero_lt_one with hread | ⟨hdeep, -⟩
  · rw [List.append_nil] at hread
    exact Expr.ofTokens_of_run (k := 0) hread
  · exact absurd hdeep (Nat.lt_irrefl _)

/-- Without line ends an expression is the whole of its tokens. -/
theorem Expr.derives_of_ofTokens (h : Expr.ofTokens piece = .ok e) (hpiece : Unseparated piece) :
    Derives maxNesting .expression piece e := by
  obtain ⟨k, hrun⟩ := Expr.run_of_ofTokens h
  obtain ⟨w, htokens, hw⟩ := nested_sound maxNesting .expression hrun
  cases k with
  | zero => rwa [htokens, List.replicate_zero, List.append_nil]
  | succ k =>
      have hnewline : isSeparator .newline = false := hpiece .newline (by simp [htokens])
      cases hnewline

/-- An expression is read off the head of its tokens, whatever follows that does not go on with
it. -/
theorem Expr.run_append (h : Derives maxNesting .expression w e) {rest : List Token}
    (hrest : joint rest < 1) : expression.run (w ++ rest) = .ok (e, rest) := by
  rcases h.reads maxNesting rest hrest with hread | ⟨hdeep, -⟩
  · exact hread
  · exact absurd hdeep (Nat.lt_irrefl _)

end Expressions

/-! ### One statement -/

theorem Assigns.assignmentSign? {sign : Symbol} {make : Target → Expr → Statement}
    (h : Assigns sign make) :
    ∃ op, Parser.assignmentSign? (.symbol sign) = some op ∧ make = assign op := by
  cases h with
  | plain => exact ⟨none, rfl, rfl⟩
  | add => exact ⟨some .add, rfl, rfl⟩
  | sub => exact ⟨some .sub, rfl, rfl⟩
  | mul => exact ⟨some .mul, rfl, rfl⟩
  | div => exact ⟨some .div, rfl, rfl⟩

theorem assigns_of_assignmentSign? {token : Token} {op : Option BinaryOp}
    (h : assignmentSign? token = some op) :
    ∃ sign, token = .symbol sign ∧ Assigns sign (assign op) := by
  unfold assignmentSign? at h
  split at h <;> cases h
  · exact ⟨.assign, rfl, .plain⟩
  · exact ⟨.plusAssign, rfl, .add⟩
  · exact ⟨.minusAssign, rfl, .sub⟩
  · exact ⟨.starAssign, rfl, .mul⟩
  · exact ⟨.slashAssign, rfl, .div⟩

/-- The tokens are at their end, or a separator is next. -/
def Ended : List Token → Prop
  | [] => True
  | token :: _ => isSeparator token = true

section Statements

variable {tokens piece rest after : List Token} {token : Token} {value : Statement} {left : Expr}

theorem eq_of_isSeparator (h : isSeparator token = true) :
    token = .newline ∨ token = .symbol .semicolon :=
  ((Bool.or_eq_true _ _).mp h).imp of_decide_eq_true of_decide_eq_true

theorem Ended.joint_eq (h : Ended rest) : joint rest = 0 := by
  cases rest with
  | nil => rfl
  | cons token rest => rcases eq_of_isSeparator h with rfl | rfl <;> rfl

theorem assignmentFrom_of_ended (h : Ended rest) :
    assignmentFrom left rest = .ok (.expr left, rest) := by
  cases rest with
  | nil => rfl
  | cons token rest => rcases eq_of_isSeparator h with rfl | rfl <;> rfl

theorem assignmentFrom_of_sign {op : Option BinaryOp} {target : Target}
    (hsign : assignmentSign? token = some op) (htarget : left.toTarget = .ok target) :
    assignmentFrom left (token :: after) = (expression.run after).bind fun read =>
      .ok (assign op target read.1, read.2) := by
  unfold assignmentFrom
  simp only [hsign, htarget]
  cases expression.run after <;> rfl

theorem joint_of_assigns {sign : Symbol} {make : Target → Expr → Statement}
    (h : Assigns sign make) (after : List Token) : joint (.symbol sign :: after) = 0 := by
  cases h <;> rfl

theorem Assigns.isSeparator {sign : Symbol} {make : Target → Expr → Statement}
    (h : Assigns sign make) : Parser.isSeparator (.symbol sign) = false := by
  cases h <;> rfl

theorem statementRun_of_opening (h : 1 ≤ token.opening) :
    statementRun (token :: after) = (expression.run (token :: after)).bind fun read =>
      assignmentFrom read.1 read.2 := by
  unfold statementRun
  split
  · rename_i heq
    cases heq
    exact absurd h (by decide)
  · rename_i heq
    cases heq
    exact absurd h (by decide)
  · rename_i heq
    cases heq
    exact absurd h (by decide)
  · cases expression.run (token :: after) <;> rfl

/-- A statement that begins with an expression is read as the expression and what follows it. -/
theorem statement_run_append {n : Nat} {w : List Token} {e : Expr}
    (h : Derives n .expression w e) (rest : List Token) :
    statement.run (w ++ rest) = (expression.run (w ++ rest)).bind fun read =>
      assignmentFrom read.1 read.2 := by
  obtain ⟨token, after, htokens, hopening⟩ := (h.opens (by decide)).append rest
  rw [htokens]
  exact statementRun_of_opening hopening

theorem Statement.run_of_assigns {right : List Token} {sign : Symbol} {e value : Expr}
    {w : List Token} {make : Target → Expr → Statement} {target : Target} (hsign : Assigns sign make)
    (hleft : Derives maxNesting .expression w e) (htarget : e.toTarget = .ok target)
    (hright : Derives maxNesting .expression right value) (hrest : Ended rest) :
    statement.run ((w ++ .symbol sign :: right) ++ rest) = .ok (make target value, rest) := by
  obtain ⟨op, hop, rfl⟩ := hsign.assignmentSign?
  have hbehind : joint (.symbol sign :: (right ++ rest)) < 1 := by
    rw [joint_of_assigns hsign]
    exact Nat.zero_lt_one
  rw [List.append_assoc, List.cons_append, statement_run_append hleft,
    Expr.run_append hleft hbehind]
  show assignmentFrom e (.symbol sign :: (right ++ rest)) = _
  rw [assignmentFrom_of_sign hop htarget, Expr.run_append hright (by rw [hrest.joint_eq]; decide)]
  rfl

/-- A piece that makes up a statement is read as that statement, up to its end. -/
theorem Statement.MadeOf.run_append (h : MadeOf piece value) (hpiece : Unseparated piece)
    (hrest : Ended rest) : statement.run (piece ++ rest) = .ok (value, rest) := by
  cases h with
  | pass => rfl
  | delete => rfl
  | @expr _ e hread =>
      have hw := Expr.derives_of_ofTokens hread hpiece
      rw [statement_run_append hw, Expr.run_append hw (by rw [hrest.joint_eq]; decide)]
      exact assignmentFrom_of_ended hrest
  | @assignName left right _ _ _ _ hsign hleft hright =>
      have hw : Unseparated left := fun token htoken => hpiece token (by simp [htoken])
      have hv : Unseparated right := fun token htoken => hpiece token (by simp [htoken])
      exact Statement.run_of_assigns hsign (Expr.derives_of_ofTokens hleft hw) rfl
        (Expr.derives_of_ofTokens hright hv) hrest
  | @assignItem left right _ _ _ _ _ hsign hleft hright =>
      have hw : Unseparated left := fun token htoken => hpiece token (by simp [htoken])
      have hv : Unseparated right := fun token htoken => hpiece token (by simp [htoken])
      exact Statement.run_of_assigns hsign (Expr.derives_of_ofTokens hleft hw) rfl
        (Expr.derives_of_ofTokens hright hv) hrest

theorem Statement.MadeOf.unique {other : Statement} (h : MadeOf piece value)
    (hother : MadeOf piece other) (hpiece : Unseparated piece) : value = other := by
  have hend : Ended [] := trivial
  have hread := h.run_append hpiece hend
  rw [hother.run_append hpiece hend] at hread
  cases hread
  rfl

theorem Unseparated.append {first second : List Token} (hfirst : Unseparated first)
    (hsecond : Unseparated second) : Unseparated (first ++ second) := by
  intro token htoken
  rcases List.mem_append.1 htoken with htoken | htoken
  · exact hfirst token htoken
  · exact hsecond token htoken

theorem Expr.madeOf_of_toTarget {w right : List Token} {sign : Symbol} {e value : Expr}
    {make : Target → Expr → Statement} {target : Target} (hsign : Assigns sign make)
    (hleft : Derives maxNesting .expression w e) (htarget : e.toTarget = .ok target)
    (hright : Derives maxNesting .expression right value) :
    Statement.MadeOf (w ++ .symbol sign :: right) (make target value) := by
  have hleft := Expr.ofTokens_of_derives hleft
  have hright := Expr.ofTokens_of_derives hright
  unfold Expr.toTarget at htarget
  split at htarget <;> cases htarget
  · exact .assignName hsign hleft hright
  · exact .assignItem hsign hleft hright

/-- What is read as a statement is a piece that makes it up, or the head of one. -/
theorem statement_sound :
    Sound statement fun piece value => Unseparated piece ∧ Statement.MadeOf piece value := by
  intro tokens value rest h
  change statementRun tokens = _ at h
  unfold statementRun at h
  split at h
  · cases h
    refine ⟨[_], rfl, ?_, .pass⟩
    intro token htoken
    rw [List.mem_singleton.1 htoken]
    rfl
  · rename_i word _
    cases h
    refine ⟨[_, _], rfl, ?_, .delete word⟩
    intro token htoken
    rcases List.mem_pair.1 htoken with rfl | rfl <;> rfl
  · cases h
  · split at h
    · cases h
    · rename_i left behind hleft
      obtain ⟨w, rfl, hw⟩ := nested_sound maxNesting .expression hleft
      unfold assignmentFrom at h
      split at h
      · cases h
        exact ⟨w, rfl, hw.unseparated, .expr (Expr.ofTokens_of_derives hw)⟩
      · split at h
        · cases h
          exact ⟨w, rfl, hw.unseparated, .expr (Expr.ofTokens_of_derives hw)⟩
        · rename_i hsign
          split at h
          · cases h
          · rename_i htarget
            split at h
            · cases h
            · rename_i hright
              cases h
              obtain ⟨sign, rfl, hassigns⟩ := assigns_of_assignmentSign? hsign
              obtain ⟨v, rfl, hv⟩ := nested_sound maxNesting .expression hright
              refine ⟨w ++ .symbol sign :: v, by simp, ?_,
                Expr.madeOf_of_toTarget hassigns hw htarget hv⟩
              refine hw.unseparated.append fun token htoken => ?_
              rcases List.mem_cons.1 htoken with rfl | htoken
              · exact hassigns.isSeparator
              · exact hv.unseparated token htoken

end Statements

/-! ### The whole program -/

section Pieces

variable {w tokens rest after : List Token} {token : Token}

theorem pieces_cons_of_separator (h : isSeparator token = true) :
    pieces (token :: after) = pieces after := by
  have hsplit := List.splitOnP_append_cons [] after h
  rw [List.nil_append] at hsplit
  unfold pieces
  rw [hsplit, List.filter_append]
  rfl

theorem pieces_append (hw : Unseparated w) (hne : w ≠ []) (hrest : Ended rest) :
    pieces (w ++ rest) = w :: pieces rest := by
  have hone : (w.splitOnP isSeparator).filter (· ≠ []) = [w] := by
    rw [List.splitOnP_eq_singleton hw]
    simp [hne]
  cases rest with
  | nil =>
      rw [List.append_nil]
      exact hone
  | cons token rest =>
      rw [pieces_cons_of_separator hrest]
      unfold pieces
      rw [List.splitOnP_append_cons w rest hrest, List.filter_append, hone, List.singleton_append]

theorem takeWhile_of_unseparated (hw : Unseparated w) (hrest : Ended rest) :
    (w ++ rest).takeWhile (!isSeparator ·) = w := by
  have hall : ∀ token ∈ w, (!isSeparator token) = true := by simpa [Unseparated] using hw
  rw [List.takeWhile_append_of_pos hall]
  cases rest with
  | nil => rw [List.takeWhile_nil, List.append_nil]
  | cons token rest =>
      have hstop : isSeparator token = true := hrest
      rw [List.takeWhile_cons, hstop]
      exact List.append_nil w

/-- A piece and what follows it can be told apart in one way only. -/
theorem append_inj_of_ended {v behind : List Token} (hw : Unseparated w) (hv : Unseparated v)
    (hrest : Ended rest) (hbehind : Ended behind) (h : w ++ rest = v ++ behind) :
    w = v ∧ rest = behind := by
  have heq : w = v := by
    rw [← takeWhile_of_unseparated hw hrest, h, takeWhile_of_unseparated hv hbehind]
  exact ⟨heq, List.append_cancel_left (heq ▸ h)⟩

theorem ended_dropWhile (tokens : List Token) : Ended (tokens.dropWhile (!isSeparator ·)) := by
  induction tokens with
  | nil => trivial
  | cons token after ih =>
      rw [List.dropWhile_cons]
      split
      · exact ih
      · rename_i hseparator
        simpa [Ended] using hseparator

/-- Any tokens are made up of separators and pieces. -/
@[elab_as_elim]
theorem pieces_induction {motive : List Token → Prop} (nil : motive [])
    (separator : ∀ token after, isSeparator token = true → motive after → motive (token :: after))
    (piece : ∀ w rest, Unseparated w → w ≠ [] → Ended rest → motive rest → motive (w ++ rest))
    (tokens : List Token) : motive tokens := by
  induction hlength : tokens.length using Nat.strong_induction_on generalizing tokens with
  | _ length ih =>
    subst hlength
    cases tokens with
    | nil => exact nil
    | cons token after =>
        cases hseparator : isSeparator token with
        | true => exact separator token after hseparator (ih _ (Nat.lt_succ_self _) after rfl)
        | false =>
            have hsplit : token :: after = (token :: after).takeWhile (!isSeparator ·) ++
                (token :: after).dropWhile (!isSeparator ·) := List.takeWhile_append_dropWhile.symm
            have hshort : ((token :: after).dropWhile (!isSeparator ·)).length <
                (token :: after).length := by
              rw [List.dropWhile_cons, hseparator]
              exact Nat.lt_succ_of_le (List.dropWhile_suffix _).length_le
            have hfirst : Unseparated ((token :: after).takeWhile (!isSeparator ·)) := by
              intro each heach
              simpa using List.mem_takeWhile_imp heach
            rw [hsplit]
            refine piece _ _ hfirst ?_ (ended_dropWhile _) (ih _ hshort _ rfl)
            rw [List.takeWhile_cons, hseparator]
            exact List.cons_ne_nil _ _

theorem unseparated_of_mem_pieces (tokens : List Token) :
    ∀ piece ∈ pieces tokens, Unseparated piece := by
  induction tokens using pieces_induction with
  | nil => simp [pieces]
  | separator token after hseparator ih => rwa [pieces_cons_of_separator hseparator]
  | piece w rest hw hne hrest ih =>
      rw [pieces_append hw hne hrest]
      exact List.forall_mem_cons.2 ⟨hw, ih⟩

end Pieces

section Programs

variable {w tokens rest after : List Token} {token : Token} {program : Array Statement}
  {result : List Statement} {value other : Statement}

theorem statementsFrom_separator (h : isSeparator token = true) :
    statementsFrom program (token :: after) = statementsFrom program after := by
  rw [statementsFrom, if_pos h]

theorem statementsFrom_statement (h : isSeparator token = false) :
    statementsFrom program (token :: after) = (statement.run (token :: after)).bind fun read =>
      match read.2 with
      | [] => .ok (program.push read.1).toList
      | next :: rest =>
        if isSeparator next then statementsFrom (program.push read.1) rest
        else .error (.unexpected next) := by
  rw [statementsFrom, if_neg (by rw [h]; decide)]
  split <;> simp_all [Except.bind]

theorem statementsFrom_piece (hw : Unseparated w) (hne : w ≠ []) (hrest : Ended rest)
    (hmade : Statement.MadeOf w value) :
    statementsFrom program (w ++ rest) = statementsFrom (program.push value) rest := by
  obtain ⟨token, tail, rfl⟩ := List.exists_cons_of_ne_nil hne
  have hrun := hmade.run_append hw hrest
  have hseparator : isSeparator token = false := hw token List.mem_cons_self
  rw [List.cons_append] at hrun ⊢
  rw [statementsFrom_statement hseparator, hrun]
  cases rest with
  | nil => rw [statementsFrom]; rfl
  | cons next rest =>
      rw [statementsFrom_separator hrest]
      exact if_pos hrest

/-- A program is read only if its first piece makes up a statement. -/
theorem madeOf_of_statementsFrom (hw : Unseparated w) (hne : w ≠ []) (hrest : Ended rest)
    (h : statementsFrom program (w ++ rest) = .ok result) :
    ∃ value, Statement.MadeOf w value := by
  obtain ⟨token, tail, rfl⟩ := List.exists_cons_of_ne_nil hne
  have hseparator : isSeparator token = false := hw token List.mem_cons_self
  rw [List.cons_append, statementsFrom_statement hseparator] at h
  -- What was read as a statement ends at a separator, so it is the whole piece.
  have hwhole {value : Statement} {behind : List Token} (hbehind : Ended behind)
      (hread : statement.run (token :: (tail ++ rest)) = .ok (value, behind)) :
      Statement.MadeOf (token :: tail) value := by
    obtain ⟨v, htokens, hv, hmade⟩ := statement_sound hread
    obtain ⟨rfl, -⟩ := append_inj_of_ended hw hv hrest hbehind htokens
    exact hmade
  cases hread : statement.run (token :: (tail ++ rest)) with
  | error fault =>
      rw [hread] at h
      cases h
  | ok read =>
      obtain ⟨value, behind⟩ := read
      refine ⟨value, hwhole ?_ hread⟩
      rw [hread] at h
      cases behind with
      | nil => trivial
      | cons next behind =>
          change (if isSeparator next then _ else _) = _ at h
          split at h
          · assumption
          · cases h

/-- A program has one statement for each piece, in the order of the pieces. -/
theorem statementsFrom_eq_ok_iff :
    statementsFrom program tokens = .ok result ↔ ∃ statements,
      result = program.toList ++ statements ∧
        List.Forall₂ Statement.MadeOf (pieces tokens) statements := by
  induction tokens using pieces_induction generalizing program with
  | nil =>
      rw [statementsFrom]
      simp [pieces, eq_comm]
  | separator token after hseparator ih =>
      rw [statementsFrom_separator hseparator, pieces_cons_of_separator hseparator, ih]
  | piece w rest hw hne hrest ih =>
      rw [pieces_append hw hne hrest]
      constructor
      · intro h
        obtain ⟨value, hmade⟩ := madeOf_of_statementsFrom hw hne hrest h
        rw [statementsFrom_piece hw hne hrest hmade, ih] at h
        obtain ⟨statements, rfl, hrest⟩ := h
        exact ⟨value :: statements, by simp, .cons hmade hrest⟩
      · rintro ⟨_, rfl, hmade⟩
        cases hmade with
        | cons hfirst hothers =>
            rw [statementsFrom_piece hw hne hrest hfirst, ih]
            exact ⟨_, by simp, hothers⟩

/-- What was read before the tokens stays in front of what is read from them. -/
theorem statementsFrom_program (program : Array Statement) (tokens : List Token) :
    statementsFrom program tokens = (statementsFrom #[] tokens).map (program.toList ++ ·) := by
  suffices ∀ start : Array Statement, ∀ program, statementsFrom program tokens =
      (statementsFrom #[] tokens).map (program.toList ++ ·) from this #[] program
  intro start
  induction start, tokens using statementsFrom.induct with
  | case1 start =>
      intro program
      rw [statementsFrom, statementsFrom]
      simp [Except.map]
  | case2 start token after hseparator ih =>
      intro program
      rw [statementsFrom_separator hseparator, statementsFrom_separator hseparator]
      exact ih program
  | case3 start token after hseparator fault hread =>
      intro program
      have hseparator := Bool.eq_false_iff.2 hseparator
      rw [statementsFrom_statement hseparator, statementsFrom_statement hseparator, hread]
      rfl
  | case4 start token after hseparator value hread =>
      intro program
      have hseparator := Bool.eq_false_iff.2 hseparator
      rw [statementsFrom_statement hseparator, statementsFrom_statement hseparator, hread]
      simp [Except.bind, Except.map]
  | case5 start token after hseparator value next rest hread hnext ih =>
      intro program
      have hseparator := Bool.eq_false_iff.2 hseparator
      rw [statementsFrom_statement hseparator, statementsFrom_statement hseparator, hread]
      simp only [Except.bind, hnext, if_true]
      rw [ih, ih (Array.push #[] value)]
      cases statementsFrom #[] rest <;> simp [Except.map]
  | case6 start token after hseparator value next rest hread hnext =>
      intro program
      have hseparator := Bool.eq_false_iff.2 hseparator
      rw [statementsFrom_statement hseparator, statementsFrom_statement hseparator, hread]
      simp [Except.bind, Except.map, hnext]

/-- Tokens that are a program are read as that program when a separator follows, whatever stands
behind it. -/
theorem statementsFrom_append (h : statementsFrom program tokens = .ok result)
    (hseparator : isSeparator token = true) (after : List Token) :
    statementsFrom program (tokens ++ token :: after) = statementsFrom result.toArray after := by
  induction tokens using pieces_induction generalizing program with
  | nil =>
      rw [statementsFrom] at h
      cases h
      rw [List.nil_append, statementsFrom_separator hseparator, Array.toArray_toList]
  | separator first behind hfirst ih =>
      rw [statementsFrom_separator hfirst] at h
      rw [List.cons_append, statementsFrom_separator hfirst]
      exact ih h
  | piece w rest hw hne hrest ih =>
      obtain ⟨value, hmade⟩ := madeOf_of_statementsFrom hw hne hrest h
      have hbehind : Ended (rest ++ token :: after) := by
        cases rest with
        | nil => exact hseparator
        | cons next rest => exact hrest
      rw [statementsFrom_piece hw hne hrest hmade] at h
      rw [List.append_assoc, statementsFrom_piece hw hne hbehind hmade]
      exact ih h

theorem Statement.ofTokens_eq_ok_iff :
    Statement.ofTokens tokens = .ok result ↔
      List.Forall₂ Statement.MadeOf (pieces tokens) result := by
  unfold Statement.ofTokens
  rw [statementsFrom_eq_ok_iff]
  simp

end Programs

/-- Tokens are a program if and only if every piece between separators makes up a statement: `pass`,
a deletion, an expression, or an assignment whose two sides are expressions for themselves. The
program is then the list of these statements in the order of the pieces, and there is one way only
for a piece to be a statement. -/
theorem Statement.ofTokens_pieces (tokens : List Token) :
    ((∃ program, Statement.ofTokens tokens = .ok program) ↔
      ∀ piece ∈ pieces tokens, ∃ statement, Statement.MadeOf piece statement) ∧
    (∀ program, Statement.ofTokens tokens = .ok program ↔
      List.Forall₂ Statement.MadeOf (pieces tokens) program) ∧
    ∀ piece ∈ pieces tokens, ∀ first second, Statement.MadeOf piece first →
      Statement.MadeOf piece second → first = second := by
  refine ⟨?_, fun program => Statement.ofTokens_eq_ok_iff, ?_⟩
  · simp only [Statement.ofTokens_eq_ok_iff]
    exact exists_forall₂_iff
  · intro piece hpiece first second hfirst hsecond
    exact hfirst.unique hsecond (unseparated_of_mem_pieces tokens piece hpiece)

end Roundtable.Script
