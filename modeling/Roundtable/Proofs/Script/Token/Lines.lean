import Roundtable.Proofs.Script.Token.Spelling
/-!
Texts line by line. Where no bracket is open a line feed ends every token and every comment and
leaves nothing behind, so the tokens of two texts with a line feed between them are the tokens of the
one, a line end, and the tokens of the other.
-/

namespace Roundtable.Script

section Scanners

variable {text rest more : List Char}

theorem scanString_append {quote : Char} {content result after : List Char}
    (h : scanString quote content text = .ok (result, after)) (more : List Char) :
    scanString quote content (text ++ more) = .ok (result, after ++ more) := by
  fun_induction scanString quote content text with
  | case1 => cases h
  | case2 content =>
      cases h
      cases more <;> simp [scanString]
  | case3 => cases h
  | case4 content d rest =>
      cases h
      simp [scanString]
  | case5 content d rest hquote ih =>
      rw [← ih h, List.cons_append, List.cons_append, scanString, if_neg hquote, if_pos rfl]
  | case6 => cases h
  | case7 content c d rest hquote hescape hlineFeed ih =>
      rw [← ih h, List.cons_append, List.cons_append, scanString, if_neg hquote, if_neg hescape,
        if_neg hlineFeed]

theorem scanNumeral_append (point exponent : Bool) (text more : List Char) :
    scanNumeral point exponent (text ++ '\n' :: more) =
      ((scanNumeral point exponent text).1,
        (scanNumeral point exponent text).2 ++ '\n' :: more) := by
  have hends (point exponent : Bool) :
      scanNumeral point exponent ('\n' :: more) = ([], '\n' :: more) :=
    Delimited.numeral_ends (show Delimited ('\n' :: more) from trivial) point exponent
  fun_induction scanNumeral point exponent text with
  | case1 => exact hends _ _
  | case7 point exponent c hdigit hseparator hpoint hexponent =>
      rw [List.singleton_append, scanNumeral, if_neg hdigit, if_neg hseparator, if_neg hpoint,
        if_pos hexponent]
      simp [hends]
  | case8 point exponent c rest hdigit hseparator hpoint hexponent =>
      rw [List.cons_append, scanNumeral.eq_def]
      dsimp only
      rw [if_neg hdigit, if_neg hseparator, if_neg hpoint, if_neg hexponent]
  | _ =>
      rw [List.cons_append, scanNumeral.eq_def]
      simp_all

theorem scanSymbol?_append {symbol : Symbol} {after : List Char}
    (h : scanSymbol? text = some (symbol, after)) (more : List Char) :
    scanSymbol? (text ++ '\n' :: more) = some (symbol, after ++ '\n' :: more) := by
  unfold scanSymbol? at h
  split at h <;> cases h
  all_goals first
    | rfl
    | (cases after <;> simp_all [scanSymbol?])

theorem beginsNumeral_append (c : Char) (rest more : List Char) :
    beginsNumeral c (rest ++ '\n' :: more) = beginsNumeral c rest := by
  cases rest <;> rfl

theorem dropWhile_append_lineFeed {p : Char → Bool} (hp : p '\n' = false) (rest more : List Char) :
    (rest ++ '\n' :: more).dropWhile p = rest.dropWhile p ++ '\n' :: more := by
  induction rest with
  | nil => rw [List.nil_append, List.dropWhile_cons, hp]; rfl
  | cons c rest ih =>
      rw [List.cons_append, List.dropWhile_cons, List.dropWhile_cons, ih]
      split <;> rfl

theorem takeWhile_append_lineFeed {p : Char → Bool} (hp : p '\n' = false) (rest more : List Char) :
    (rest ++ '\n' :: more).takeWhile p = rest.takeWhile p := by
  induction rest with
  | nil => rw [List.nil_append, List.takeWhile_cons, hp]; rfl
  | cons c rest ih => rw [List.cons_append, List.takeWhile_cons, List.takeWhile_cons, ih]

theorem scanSymbol?_eq_none_append {c : Char} (h : scanSymbol? (c :: rest) = none)
    (more : List Char) : scanSymbol? (c :: rest ++ '\n' :: more) = none := by
  unfold scanSymbol? at h
  split at h <;> cases h
  -- A sign has two characters at the most, so what is behind the first of `rest` does not matter.
  cases rest
  all_goals
    unfold scanSymbol?
    split
    all_goals first
      | rfl
      | (rename_i hsign; cases hsign <;> solve_by_elim)

end Scanners

section Step

variable {depth : Nat} {c : Char} {rest : List Char}

/-- What a step makes of a text it makes of it before any further line, unless it reads a string that
is not closed. -/
theorem LexStep.append_line {result : Except LexFault Lexeme} (h : LexStep depth c rest result)
    (hclosed : result ≠ .error .unfinishedString) (more : List Char) :
    LexStep depth c (rest ++ '\n' :: more)
      (result.map fun lexeme => { lexeme with rest := lexeme.rest ++ '\n' :: more }) := by
  have hbegins := beginsNumeral_append c rest more
  have hread := scanNumeral_append (c == '.') false rest more
  -- a step stays in its case, since all that tells it stands before the line feed
  cases h with
  | blank hblank => exact .blank hblank
  | lineFeed hlineFeed => exact .lineFeed hlineFeed
  | comment hcomment =>
      have hstep := @LexStep.comment depth c (rest ++ '\n' :: more) hcomment
      rwa [dropWhile_append_lineFeed (by decide)] at hstep
  | string hquote hscan => exact .string hquote (scanString_append hscan _)
  | openString => exact absurd rfl hclosed
  | numeral hnumeral hscan htoken =>
      rw [hscan] at hread
      exact .numeral (hbegins.trans hnumeral) hread htoken
  | badNumeral hnumeral hscan htoken =>
      rw [hscan] at hread
      exact .badNumeral (hbegins.trans hnumeral) hread htoken
  | word hname =>
      have hstep := @LexStep.word depth c (rest ++ '\n' :: more) hname
      rwa [takeWhile_append_lineFeed (by decide), dropWhile_append_lineFeed (by decide)] at hstep
  | symbol hnumeral hscan hdepth =>
      exact .symbol (hbegins.trans hnumeral) (scanSymbol?_append hscan more) hdepth
  | unmatched hnumeral hscan hdepth =>
      exact .unmatched (hbegins.trans hnumeral) (scanSymbol?_append hscan more) hdepth
  | unexpected hplain hnumeral hname hscan =>
      exact .unexpected hplain (hbegins.trans hnumeral) hname (scanSymbol?_eq_none_append hscan more)

/-- One step reads the same when a further line follows its text. -/
theorem nextLexeme_append {lexeme : Lexeme} (h : nextLexeme depth c rest = .ok lexeme)
    (more : List Char) :
    nextLexeme depth c (rest ++ '\n' :: more) =
      .ok { lexeme with rest := lexeme.rest ++ '\n' :: more } :=
  ((LexStep.of_eq h).append_line nofun more).eq

/-- A step that is at fault is so before any further line, unless it reads a string. -/
theorem nextLexeme_line_of_fault {fault : LexFault} (hclosed : fault ≠ .unfinishedString)
    (h : nextLexeme depth c rest = .error fault) (more : List Char) :
    nextLexeme depth c (rest ++ '\n' :: more) = .error fault :=
  ((LexStep.of_eq h).append_line (by simpa using hclosed) more).eq

end Step

/-- What was found before a text stays in front of what is found in it. -/
theorem scanFrom_found (depth : Nat) (found : Array Token) (text : List Char) :
    scanFrom depth found text = (scanFrom depth #[] text).map (found.toList ++ ·) := by
  -- The recursion finds more before the rest of the text, so `found` is any.
  suffices ∀ start : Array Token, ∀ found, scanFrom depth found text =
      (scanFrom depth #[] text).map (found.toList ++ ·) from this #[] found
  intro start
  induction depth, start, text using scanFrom.induct with
  | case1 depth start =>
      intro found
      rw [scanFrom, scanFrom]
      exact congrArg Except.ok (List.append_nil _).symm
  | case2 depth start c rest fault hstep =>
      intro found
      rw [scanFrom, scanFrom]
      split <;> simp_all [Except.map]
  | case3 depth start c rest lexeme hstep ih =>
      intro found
      rw [scanFrom_of_step hstep, scanFrom_of_step hstep, ih, ih (lexeme.token?.elim #[] _)]
      cases scanFrom lexeme.depth #[] lexeme.rest with
      | error fault => rfl
      | ok tokens => cases lexeme.token? <;> simp [Except.map]

/-- A text that is read to its end is read in the same way when a further line follows. -/
theorem scanFrom_append_line {depth : Nat} {found : Array Token} {text : List Char}
    {tokens : List Token} (hdepth : depth + closings found.toList = openings found.toList)
    (h : scanFrom depth found text = .ok tokens) :
    ∃ after, after + closings tokens = openings tokens ∧ ∀ more,
      scanFrom depth found (text ++ '\n' :: more) =
        scanFrom after tokens.toArray ('\n' :: more) := by
  fun_induction scanFrom depth found text with
  | case1 depth found =>
      cases h
      exact ⟨depth, hdepth, fun more => rfl⟩
  | case2 => cases h
  | case3 depth found c rest lexeme hstep ih =>
      have hnext : lexeme.depth + closings (lexeme.token?.elim found found.push).toList =
          openings (lexeme.token?.elim found found.push).toList := by
        rcases nextLexeme_eq_ok hstep with ⟨hnone, hsame⟩ | ⟨token, hsome, -, hafter⟩
        · rw [hnone, hsame]
          exact hdepth
        · rw [hsome, Option.elim_some, Array.toList_push]
          exact depth_concat hdepth hafter
      obtain ⟨after, hbalance, hread⟩ := ih hnext h
      refine ⟨after, hbalance, fun more => ?_⟩
      rw [List.cons_append, scanFrom_of_step (nextLexeme_append hstep more)]
      exact hread more

/-- A text whose brackets are all closed and a further text behind a line feed have the tokens of
both, with a line end between them. -/
theorem tokensOf_line {first : String} {tokens : List Token} (h : tokensOf first = .ok tokens)
    (hclosed : closings tokens = openings tokens) (second : String) :
    tokensOf (first ++ "\n" ++ second) = (tokensOf second).map (tokens ++ .newline :: ·) := by
  obtain ⟨after, hbalance, hread⟩ := scanFrom_append_line rfl h
  have hafter : after = 0 := by omega
  subst hafter
  have htext : (first ++ "\n" ++ second).toList = first.toList ++ '\n' :: second.toList := by simp
  have hlineFeed : nextLexeme 0 '\n' second.toList = .ok ⟨some .newline, 0, second.toList⟩ := rfl
  unfold tokensOf
  rw [htext, hread, scanFrom_of_step hlineFeed, scanFrom_found]
  simp

end Roundtable.Script
