import Roundtable.Proofs.Script.Token.Steps
/-!
What every sequence of tokens read from a text has in common: its integers have no sign, its names
are not reserved, no bracket is closed that is not open, and no line ends between brackets.
-/

namespace Roundtable.Script

/-- Any word of letters, digits and underscores that begins with no digit and is not reserved. -/
def IsName (word : String) : Prop :=
  ∃ first rest, word.toList = first :: rest ∧
    (Text.isAlphabetic first = true ∨ first = '_') ∧
    (∀ c ∈ rest, Text.isAlphanumeric c = true ∨ c = '_') ∧
    ∀ keyword : Keyword, keyword.word ≠ word

/-- A token that a text can hold on its own account, whatever stands around it. -/
def Token.Legible : Token → Prop
  | .int value => 0 ≤ value
  | .name word => IsName word
  | _ => True

def Token.opens : Token → Bool
  | .symbol .leftParen | .symbol .leftBracket => true
  | _ => false

def Token.closes : Token → Bool
  | .symbol .rightParen | .symbol .rightBracket => true
  | _ => false

def openings (tokens : List Token) : Nat := tokens.countP Token.opens

def closings (tokens : List Token) : Nat := tokens.countP Token.closes

structure WellFormed (tokens : List Token) : Prop where
  legible : ∀ token ∈ tokens, token.Legible
  /-- No bracket is closed before it was opened. -/
  closings_le : ∀ before, before <+: tokens → closings before ≤ openings before
  /-- A line ends only where every bracket is closed. -/
  newline_level : ∀ before, before ++ [.newline] <+: tokens → closings before = openings before

/-! ### One more token -/

/-- The number of open brackets behind a token, if the token can stand where `depth` are open. -/
def Token.depthAfter? (depth : Nat) : Token → Option Nat
  | .symbol sign => sign.depthAfter? depth
  | .newline => if depth = 0 then some depth else none
  | _ => some depth

section OneMore

variable {before tokens : List Token} {token : Token} {depth after : Nat}

theorem openings_concat (before : List Token) (token : Token) :
    openings (before ++ [token]) = openings before + openings [token] :=
  List.countP_append

theorem closings_concat (before : List Token) (token : Token) :
    closings (before ++ [token]) = closings before + closings [token] :=
  List.countP_append

/-- The depth is the difference of the two counts, and only a closing bracket or a line end can
stand in the wrong place. -/
theorem Token.depthAfter?_eq_some_iff :
    token.depthAfter? depth = some after ↔
      after + closings [token] = depth + openings [token] ∧ (token = .newline → depth = 0) := by
  cases token with
  | symbol sign =>
      cases sign <;>
        simp only [Token.depthAfter?, Symbol.depthAfter?, closings, openings, List.countP_singleton,
          Token.opens, Token.closes, Option.some.injEq, Option.ite_none_left_eq_some, reduceCtorEq,
          if_true, if_false, Bool.false_eq_true, false_implies, and_true] <;>
        omega
  | newline =>
      simp only [Token.depthAfter?, closings, openings, List.countP_singleton, Token.opens,
        Token.closes, Option.ite_none_right_eq_some, Option.some.injEq, Bool.false_eq_true,
        if_false, true_implies, Nat.add_zero]
      omega
  | _ =>
      simp only [Token.depthAfter?, closings, openings, List.countP_singleton, Token.opens,
        Token.closes, Option.some.injEq, Bool.false_eq_true, if_false, Nat.add_zero, reduceCtorEq,
        false_implies, and_true]
      omega

theorem wellFormed_nil : WellFormed [] where
  legible := fun _ hmem => nomatch hmem
  closings_le := fun before hbefore => by rw [List.prefix_nil.1 hbefore]; exact Nat.le_refl 0
  newline_level := fun before hbefore => by simp at hbefore

theorem WellFormed.of_concat (h : WellFormed (before ++ [token])) : WellFormed before where
  legible := fun each hmem => h.legible each (List.mem_append_left [token] hmem)
  closings_le := fun part hpart => h.closings_le part (hpart.trans (List.prefix_append _ _))
  newline_level := fun part hpart => h.newline_level part (hpart.trans (List.prefix_append _ _))

/-- Where one more token can stand is told by the number of brackets that are open. -/
theorem wellFormed_concat_iff (hdepth : depth + closings before = openings before) :
    WellFormed (before ++ [token]) ↔
      WellFormed before ∧ token.Legible ∧ ∃ after, token.depthAfter? depth = some after := by
  constructor
  · intro h
    have hlevel := h.closings_le _ (List.prefix_refl _)
    rw [openings_concat, closings_concat] at hlevel
    refine ⟨h.of_concat, h.legible token (by simp),
      depth + openings [token] - closings [token], Token.depthAfter?_eq_some_iff.2 ⟨by omega, ?_⟩⟩
    rintro rfl
    have := h.newline_level before (List.prefix_refl _)
    omega
  · rintro ⟨hbefore, hlegible, after, hafter⟩
    obtain ⟨hlevel, hnewline⟩ := Token.depthAfter?_eq_some_iff.1 hafter
    refine ⟨fun each hmem => ?_, fun part hpart => ?_, fun part hpart => ?_⟩
    · rcases List.mem_append.1 hmem with hmem | hmem
      · exact hbefore.legible each hmem
      · rwa [List.mem_singleton.1 hmem]
    · rcases List.prefix_concat_iff.1 hpart with rfl | hpart
      · rw [openings_concat, closings_concat]
        omega
      · exact hbefore.closings_le part hpart
    · rcases List.prefix_concat_iff.1 hpart with heq | hpart
      · obtain ⟨rfl, hlast⟩ := List.append_inj' heq rfl
        have := hnewline (List.cons.inj hlast).1.symm
        omega
      · exact hbefore.newline_level part hpart

theorem depth_concat (hdepth : depth + closings before = openings before)
    (hafter : token.depthAfter? depth = some after) :
    after + closings (before ++ [token]) = openings (before ++ [token]) := by
  have := (Token.depthAfter?_eq_some_iff.1 hafter).1
  rw [openings_concat, closings_concat]
  omega

end OneMore

/-! ### What one step reads -/

section Step

variable {depth : Nat} {c : Char} {rest numeral : List Char} {token : Token} {lexeme : Lexeme}

theorem Keyword.mem_all (keyword : Keyword) : keyword ∈ Keyword.all := by
  cases keyword <;> decide

theorem legible_wordToken {first : Char} {rest : List Char} (hfirst : beginsName first = true)
    (hrest : ∀ c ∈ rest, continuesName c = true) :
    (wordToken (String.ofList (first :: rest))).Legible := by
  unfold wordToken
  split
  · trivial
  · rename_i hnone
    refine ⟨first, rest, String.toList_ofList, by simpa [beginsName] using hfirst,
      fun c hc => by simpa [continuesName] using hrest c hc, fun keyword hword => ?_⟩
    have := List.find?_eq_none.1 hnone keyword keyword.mem_all
    exact this (decide_eq_true hword)

theorem nonneg_of_toInt64? {size : Nat} {value : Int64}
    (h : Number.toInt64? size = some value) : 0 ≤ value := by
  unfold Number.toInt64? at h
  split at h
  · rename_i hfits
    obtain ⟨-, hlt⟩ := (Bool.and_eq_true _ _).mp hfits
    have hlt := of_decide_eq_true hlt
    cases h
    rw [Int64.le_iff_toInt_le, Int64.toInt_ofInt_of_le (by omega) (by omega)]
    exact Int.natCast_nonneg size
  · cases h

theorem splitSign_of_isDigit (h : c.isDigit = true) :
    Number.splitSign (c :: rest) = (false, c :: rest) := by
  unfold Number.splitSign
  split
  · rename_i heq
    exact absurd (List.cons.inj heq).1 (ne_of_isDigit h rfl)
  · rename_i heq
    exact absurd (List.cons.inj heq).1 (ne_of_isDigit h rfl)
  · rfl

/-- A numeral begins with a digit or a point, and a point makes it a decimal one. -/
theorem legible_of_numeralToken (hbegin : c.isDigit = true ∨ c = '.')
    (h : numeralToken (c :: numeral) = .ok token) :
    token.Legible ∧ token.depthAfter? depth = some depth := by
  unfold numeralToken at h
  split at h
  · cases hread : Number.readFloat? (c :: numeral) <;> rw [hread] at h <;> cases h
    exact ⟨trivial, rfl⟩
  · rename_i hwhole
    have hpoint : c ≠ '.' := by
      rintro rfl
      simp at hwhole
    have hdigit : c.isDigit = true := hbegin.resolve_right hpoint
    cases hread : Number.readInt64? (c :: numeral) with
    | none =>
        rw [hread] at h
        cases h
    | some value =>
        rw [hread] at h
        cases h
        unfold Number.readInt64? at hread
        rw [splitSign_of_isDigit hdigit] at hread
        simp only [Bool.false_eq_true, if_false] at hread
        split at hread
        · exact ⟨nonneg_of_toInt64? hread, rfl⟩
        · cases hread

/-- A step reads layout, or a token that can stand in its place. -/
theorem nextLexeme_eq_ok (h : nextLexeme depth c rest = .ok lexeme) :
    (lexeme.token? = none ∧ lexeme.depth = depth) ∨
      ∃ token, lexeme.token? = some token ∧ token.Legible ∧
        token.depthAfter? depth = some lexeme.depth := by
  cases LexStep.of_eq h with
  | blank | comment => exact .inl ⟨rfl, rfl⟩
  | lineFeed =>
      by_cases hdepth : depth = 0
      · exact .inr ⟨.newline, if_pos hdepth, trivial, if_pos hdepth⟩
      · exact .inl ⟨if_neg hdepth, rfl⟩
  | string => exact .inr ⟨_, rfl, trivial, rfl⟩
  | @numeral _ _ token hnumeral _ htoken =>
      have hbegin : c.isDigit = true ∨ c = '.' := by
        simp only [beginsNumeral, Bool.or_eq_true, Bool.and_eq_true, beq_iff_eq] at hnumeral
        exact hnumeral.imp_right And.left
      exact .inr ⟨token, rfl, legible_of_numeralToken hbegin htoken⟩
  | word hname =>
      refine .inr ⟨_, rfl, legible_wordToken hname (List.all_eq_true.1 List.all_takeWhile), ?_⟩
      unfold wordToken
      split <;> rfl
  | symbol _ _ hdepth => exact .inr ⟨_, rfl, trivial, hdepth⟩

end Step

/-! ### The whole reading -/

theorem scanFrom_wellFormed {depth : Nat} {found : Array Token} {text : List Char}
    {tokens : List Token} (hfound : WellFormed found.toList)
    (hdepth : depth + closings found.toList = openings found.toList)
    (h : scanFrom depth found text = .ok tokens) : WellFormed tokens := by
  fun_induction scanFrom depth found text with
  | case1 depth found =>
      cases h
      exact hfound
  | case2 => cases h
  | case3 depth found c rest lexeme hstep ih =>
      rcases nextLexeme_eq_ok hstep with ⟨hnone, hsame⟩ | ⟨token, hsome, hlegible, hafter⟩
      · rw [hnone, hsame] at ih h
        exact ih hfound hdepth h
      · rw [hsome] at ih h
        refine ih ?_ ?_ h
        · rw [Option.elim_some, Array.toList_push]
          exact (wellFormed_concat_iff hdepth).2 ⟨hfound, hlegible, _, hafter⟩
        · rw [Option.elim_some, Array.toList_push]
          exact depth_concat hdepth hafter

theorem tokensOf_wellFormed {source : String} {tokens : List Token}
    (h : tokensOf source = .ok tokens) : WellFormed tokens :=
  scanFrom_wellFormed wellFormed_nil rfl h

end Roundtable.Script
