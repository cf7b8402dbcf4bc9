import Roundtable.Script.Token.Lexer
/-!
The cases of one step of the lexer. Which of them a text belongs to is told by its first character, and
by the second one behind a point, so that each case names the step that is made.
-/

namespace Roundtable.Script

/-! ### First characters -/

section First

variable {c : Char} {rest : List Char}

theorem ne_of_isDigit {d : Char} (h : c.isDigit = true) (hd : d.isDigit = false) : c ≠ d := by
  rintro rfl
  rw [h] at hd
  cases hd

theorem mem_digits_of_isDigit (h : c.isDigit = true) : c ∈ "0123456789".toList := by
  obtain ⟨hfirst, hlast⟩ := (Bool.and_eq_true _ _).mp h
  have hfirst : 48 ≤ c.toNat := UInt32.le_iff_toNat_le.1 (of_decide_eq_true hfirst)
  have hlast : c.toNat ≤ 57 := UInt32.le_iff_toNat_le.1 (of_decide_eq_true hlast)
  have hdigits : ∀ n < 10, Char.ofNat (48 + n) ∈ "0123456789".toList := by decide
  have hmem := hdigits (c.toNat - 48) (by omega)
  rwa [Nat.add_sub_cancel' hfirst, Char.ofNat_toNat] at hmem

/-- What none of the ten digits has, no digit has. -/
theorem eq_false_of_isDigit {p : Char → Bool} (hdigits : "0123456789".toList.any p = false)
    (h : c.isDigit = true) : p c = false :=
  Bool.eq_false_iff.2 (List.any_eq_false.1 hdigits c (mem_digits_of_isDigit h))

theorem ne_of_not_decisive (h : c ∉ decisive) :
    ¬(c = ' ' ∨ c = '\t' ∨ c = '\r') ∧ c ≠ '\n' ∧ c ≠ '#' ∧ ¬(c = '\'' ∨ c = '"') := by
  simpa only [decisive, List.mem_cons, List.not_mem_nil, or_false, not_or, and_assoc] using h

theorem not_decisive_of_isDigit (h : c.isDigit = true) : c ∉ decisive :=
  of_decide_eq_false (eq_false_of_isDigit (p := fun c => decide (c ∈ decisive)) (by decide) h)

theorem not_decisive_of_beginsNumeral (h : beginsNumeral c rest = true) : c ∉ decisive := by
  cases hdigit : c.isDigit with
  | true => exact not_decisive_of_isDigit hdigit
  | false =>
      rw [beginsNumeral, hdigit, Bool.false_or, Bool.and_eq_true, beq_iff_eq] at h
      rw [h.1]
      decide

theorem not_decisive_of_beginsName (h : beginsName c = true) : c ∉ decisive := fun hmem =>
  List.any_eq_false.1 (show decisive.any beginsName = false by decide) c hmem h

theorem beginsNumeral_of_beginsName (h : beginsName c = true) : beginsNumeral c rest = false := by
  have hpoint : c ≠ '.' := by
    rintro rfl
    exact absurd h (by decide)
  have hdigit : c.isDigit = false := Bool.eq_false_iff.2 fun hdigit =>
    Bool.eq_false_iff.1 (eq_false_of_isDigit (by decide) hdigit) h
  simp [beginsNumeral, hpoint, hdigit]

theorem plain_of_scanSymbol? {symbol : Symbol} {after : List Char}
    (h : scanSymbol? (c :: rest) = some (symbol, after)) :
    c ∉ decisive ∧ beginsName c = false := by
  unfold scanSymbol? at h
  split at h
  case h_26 => cases h
  all_goals
    rename_i heq
    cases heq
    decide

end First

/-- A case of a step names the step that is made. -/
theorem LexStep.eq {depth : Nat} {c : Char} {rest : List Char} {result : Except LexFault Lexeme}
    (h : LexStep depth c rest result) : nextLexeme depth c rest = result := by
  cases h with
  | blank hblank => exact if_pos hblank
  | lineFeed hlineFeed | comment hcomment =>
      subst c
      rfl
  | string hquote hscan | openString hquote hscan =>
      rcases hquote with rfl | rfl <;> simp [nextLexeme, hscan, bind, Except.bind, pure, Except.pure]
  | numeral hnumeral hscan htoken | badNumeral hnumeral hscan htoken =>
      obtain ⟨hblank, hlineFeed, hcomment, hquote⟩ :=
        ne_of_not_decisive (not_decisive_of_beginsNumeral hnumeral)
      unfold nextLexeme
      rw [if_neg hblank, if_neg hlineFeed, if_neg hcomment, if_neg hquote, if_pos hnumeral, hscan]
      dsimp only
      rw [htoken]
      rfl
  | word hname =>
      obtain ⟨hblank, hlineFeed, hcomment, hquote⟩ :=
        ne_of_not_decisive (not_decisive_of_beginsName hname)
      unfold nextLexeme
      rw [if_neg hblank, if_neg hlineFeed, if_neg hcomment, if_neg hquote,
        if_neg (Bool.eq_false_iff.1 (beginsNumeral_of_beginsName hname)), if_pos hname]
  | symbol hnumeral hscan hdepth | unmatched hnumeral hscan hdepth =>
      obtain ⟨hplain, hname⟩ := plain_of_scanSymbol? hscan
      obtain ⟨hblank, hlineFeed, hcomment, hquote⟩ := ne_of_not_decisive hplain
      unfold nextLexeme
      rw [if_neg hblank, if_neg hlineFeed, if_neg hcomment, if_neg hquote,
        if_neg (Bool.eq_false_iff.1 hnumeral), if_neg (Bool.eq_false_iff.1 hname), hscan]
      dsimp only
      rw [hdepth]
  | unexpected hplain hnumeral hname hscan =>
      obtain ⟨hblank, hlineFeed, hcomment, hquote⟩ := ne_of_not_decisive hplain
      unfold nextLexeme
      rw [if_neg hblank, if_neg hlineFeed, if_neg hcomment, if_neg hquote,
        if_neg (Bool.eq_false_iff.1 hnumeral), if_neg (Bool.eq_false_iff.1 hname), hscan]

end Roundtable.Script
