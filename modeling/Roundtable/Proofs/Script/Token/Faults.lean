import Roundtable.Proofs.Script.Token.Lines
/-!
Lexical faults line by line. A text that has no tokens keeps its fault whatever lines follow it, but
for one case: a backslash at its end takes the line feed into the string that it stands in, and the
string may then be closed on a later line.
-/

namespace Roundtable.Script

/-- Where the reader of a script stands, as far as its quotes, backslashes, hashes and line feeds
tell. -/
inductive Mode where
  | code
  | comment
  | string (quote : Char)
  | escape (quote : Char)
  /-- A line has ended inside a string. -/
  | broken
  deriving DecidableEq

def Mode.after : Mode → Char → Mode
  | code, c =>
    if c = '#' then comment else if c = '\'' ∨ c = '"' then string c else code
  | comment, c => if c = '\n' then code else comment
  | string quote, c =>
    if c = quote then code
    else if c = '\\' then escape quote
    else if c = '\n' then broken
    else string quote
  | escape quote, _ => string quote
  | broken, _ => broken

def Mode.isEscape : Mode → Bool
  | escape _ => true
  | _ => false

/-- Whether the last character of a text is a backslash that begins an escape in a string. -/
def endsInEscape (text : List Char) : Bool :=
  (text.foldl Mode.after .code).isEscape

section Strings

variable {quote : Char} {content text result after : List Char}

/-- Behind a string that is closed the text is read as code again. -/
theorem foldl_of_scanString (h : scanString quote content text = .ok (result, after)) :
    text.foldl Mode.after (.string quote) = after.foldl Mode.after .code := by
  fun_induction scanString quote content text with
  | case1 => cases h
  | case2 content =>
      cases h
      simp [Mode.after]
  | case3 => cases h
  | case4 content d rest =>
      cases h
      simp [Mode.after]
  | case5 content d rest hquote ih => simp [Mode.after, hquote, ih h]
  | case6 => cases h
  | case7 content c d rest hquote hescape hlineFeed ih =>
      rw [← ih h]
      simp [Mode.after, hquote, hescape, hlineFeed]

theorem foldl_broken (text : List Char) : text.foldl Mode.after .broken = .broken := by
  induction text with
  | nil => rfl
  | cons c rest ih => exact ih

theorem scanString_lineFeed (hquote : quote ≠ '\n') (content more : List Char) :
    scanString quote content ('\n' :: more) = .error .unfinishedString := by
  cases more <;> simp [scanString, hquote.symm]

/-- A string that is not closed stays so when its line ends, unless the line feed is escaped. A quote
on the next line then closes it. -/
theorem scanString_line_of_error (hquote : quote ≠ '\n')
    (h : scanString quote content text = .error .unfinishedString) :
    (text.foldl Mode.after (.string quote)).isEscape = true ∧
        (∃ result, scanString quote content (text ++ ['\n', quote]) = .ok (result, [])) ∨
      (text.foldl Mode.after (.string quote)).isEscape = false ∧
        ∀ more, scanString quote content (text ++ '\n' :: more) = .error .unfinishedString := by
  fun_induction scanString quote content text with
  | case1 content => exact .inr ⟨rfl, fun more => scanString_lineFeed hquote content more⟩
  | case2 content => cases h
  | case3 content c hplain =>
      by_cases hescape : c = '\\'
      · subst hescape
        simp [Mode.after, Mode.isEscape, scanString, hplain]
      · by_cases hlineFeed : c = '\n'
        · subst hlineFeed
          simp [Mode.after, Mode.isEscape, scanString_lineFeed hquote, hplain]
        · have hread (more : List Char) : scanString quote content (c :: '\n' :: more) =
              scanString quote (c :: content) ('\n' :: more) := by
            rw [scanString, if_neg hplain, if_neg hescape, if_neg hlineFeed]
          simp [Mode.after, Mode.isEscape, hplain, hescape, hlineFeed, hread,
            scanString_lineFeed hquote]
  | case4 content d rest => cases h
  | case5 content d rest hplain ih =>
      simpa [Mode.after, scanString, hplain] using ih h
  | case6 content d rest hplain hescape =>
      simp [Mode.after, Mode.isEscape, hplain, foldl_broken, scanString_lineFeed hquote]
  | case7 content c d rest hplain hescape hlineFeed ih =>
      simpa [Mode.after, scanString, hplain, hescape, hlineFeed] using ih h

end Strings

section Step

variable {depth : Nat} {c : Char} {text rest : List Char} {lexeme : Lexeme}

theorem foldl_of_quote (h : c = '\'' ∨ c = '"') (rest : List Char) :
    (c :: rest).foldl Mode.after .code = rest.foldl Mode.after (.string c) := by
  rcases h with rfl | rfl <;> rfl

/-- A character that begins neither a comment nor a string leaves the reader in code. -/
theorem foldl_code_cons (h : c ∉ decisive) (rest : List Char) :
    (c :: rest).foldl Mode.after .code = rest.foldl Mode.after .code := by
  obtain ⟨-, -, hcomment, hquote⟩ := ne_of_not_decisive h
  rw [List.foldl_cons, Mode.after, if_neg hcomment, if_neg hquote]

theorem foldl_of_comment (rest : List Char) :
    (rest.foldl Mode.after .comment).isEscape = endsInEscape (rest.dropWhile (· ≠ '\n')) := by
  induction rest with
  | nil => rfl
  | cons c rest ih =>
      by_cases hlineFeed : c = '\n'
      · subst hlineFeed
        rfl
      · rw [List.foldl_cons, List.dropWhile_cons_of_pos (by simpa using hlineFeed), ← ih]
        rw [Mode.after, if_neg hlineFeed]

theorem not_decisive_of_exponent (h : c = 'e' ∨ c = 'E') : c ∉ decisive := by
  rcases h with rfl | rfl <;> decide

theorem not_decisive_of_sign (h : c = '+' ∨ c = '-') : c ∉ decisive := by
  rcases h with rfl | rfl <;> decide

theorem foldl_of_scanNumeral (point exponent : Bool) (text : List Char) :
    text.foldl Mode.after .code = (scanNumeral point exponent text).2.foldl Mode.after .code := by
  fun_induction scanNumeral point exponent text with
  | case1 => rfl
  | case2 point exponent c rest hdigit numeral after hscan ih =>
      rw [foldl_code_cons (not_decisive_of_isDigit hdigit), ih, hscan]
  | case3 point exponent rest hdigit ih => exact ih
  | case4 point exponent c rest hdigit hseparator hpoint numeral after hscan ih =>
      obtain ⟨rfl, -⟩ := hpoint
      rw [foldl_code_cons (by decide), ih, hscan]
  | case5 point exponent c hdigit hseparator hpoint hexponent sign digits hsign numeral after hscan
      ih =>
      rw [foldl_code_cons (not_decisive_of_exponent hexponent.1),
        foldl_code_cons (not_decisive_of_sign hsign), ih, hscan]
  | case6 point exponent c hdigit hseparator hpoint hexponent sign digits hsign numeral after hscan
      ih =>
      rw [foldl_code_cons (not_decisive_of_exponent hexponent.1), ih, hscan]
  | case7 point exponent c hdigit hseparator hpoint hexponent =>
      exact foldl_code_cons (not_decisive_of_exponent hexponent.1) []
  | case8 => rfl

theorem foldl_of_word (text : List Char) :
    text.foldl Mode.after .code = (text.dropWhile continuesName).foldl Mode.after .code := by
  induction text with
  | nil => rfl
  | cons c rest ih =>
      by_cases hname : continuesName c = true
      · have hplain : c ∉ decisive := fun hmem =>
          List.any_eq_false.1 (show decisive.any continuesName = false by decide) c hmem hname
        rw [List.dropWhile_cons_of_pos hname, ← ih, foldl_code_cons hplain]
      · rw [List.dropWhile_cons_of_neg hname]

theorem foldl_of_scanSymbol? {symbol : Symbol} {after : List Char}
    (h : scanSymbol? text = some (symbol, after)) :
    text.foldl Mode.after .code = after.foldl Mode.after .code := by
  unfold scanSymbol? at h
  split at h <;> cases h <;> rfl

/-- What is read in one step is left behind: whether the text ends in an escape is told by the rest. -/
theorem endsInEscape_of_nextLexeme (h : nextLexeme depth c rest = .ok lexeme) :
    endsInEscape (c :: rest) = endsInEscape lexeme.rest := by
  cases LexStep.of_eq h with
  | blank hblank => rcases hblank with rfl | rfl | rfl <;> rfl
  | lineFeed hlineFeed =>
      subst hlineFeed
      rfl
  | comment hcomment =>
      subst hcomment
      exact foldl_of_comment rest
  | string hquote hscan =>
      unfold endsInEscape
      rw [foldl_of_quote hquote, foldl_of_scanString hscan]
  | numeral hnumeral hscan =>
      unfold endsInEscape
      rw [foldl_code_cons (not_decisive_of_beginsNumeral hnumeral), foldl_of_scanNumeral, hscan]
  | word hname =>
      unfold endsInEscape
      rw [foldl_code_cons (not_decisive_of_beginsName hname), foldl_of_word]
  | symbol _ hscan =>
      unfold endsInEscape
      rw [foldl_of_scanSymbol? hscan]

/-- A step that is at fault in a text is so before every further line, but for a string that the text
ends in an escape of: a quote on the next line then closes it. -/
theorem nextLexeme_line_of_error {fault : LexFault} (h : nextLexeme depth c rest = .error fault) :
    (fault = .unfinishedString ∧ endsInEscape (c :: rest) = true ∧ ∃ quote result,
        nextLexeme depth c (rest ++ ['\n', quote]) = .ok ⟨some (.str result), depth, []⟩) ∨
      ¬(fault = .unfinishedString ∧ endsInEscape (c :: rest) = true) ∧
        ∀ more, nextLexeme depth c (rest ++ '\n' :: more) = .error fault := by
  by_cases hfault : fault = .unfinishedString
  · subst hfault
    cases LexStep.of_eq h with
    | openString hquote hscan =>
        have hplain : c ≠ '\n' := by
          rcases hquote with rfl | rfl <;> decide
        unfold endsInEscape
        rw [foldl_of_quote hquote]
        rcases scanString_line_of_error hplain hscan with ⟨hends, result, hclosed⟩ | ⟨hends, hopen⟩
        · exact .inl ⟨rfl, hends, c, String.ofList result, (LexStep.string hquote hclosed).eq⟩
        · refine .inr ⟨fun hboth => ?_, fun more => (LexStep.openString hquote (hopen more)).eq⟩
          rw [hends] at hboth
          exact absurd hboth.2 Bool.false_ne_true
  · exact .inr ⟨fun hboth => hfault hboth.1, nextLexeme_line_of_fault hfault h⟩

end Step

theorem scanFrom_of_fault {depth : Nat} {found : Array Token} {c : Char} {rest : List Char}
    {fault : LexFault} (h : nextLexeme depth c rest = .error fault) :
    scanFrom depth found (c :: rest) = .error fault := by
  rw [scanFrom]
  split <;> simp_all

/-- Reading a text that has no tokens. -/
theorem scanFrom_line_of_error {depth : Nat} {found : Array Token} {text : List Char}
    {fault : LexFault} (h : scanFrom depth found text = .error fault) :
    (fault = .unfinishedString ∧ endsInEscape text = true ∧ ∃ quote tokens,
        scanFrom depth found (text ++ ['\n', quote]) = .ok tokens) ∨
      ¬(fault = .unfinishedString ∧ endsInEscape text = true) ∧
        ∀ more, scanFrom depth found (text ++ '\n' :: more) = .error fault := by
  -- a step that reads something leaves its fault and its last escape to the rest of the text
  fun_induction scanFrom depth found text with
  | case1 => cases h
  | case2 depth found c rest fault hstep =>
      cases h
      rcases nextLexeme_line_of_error hstep with
        ⟨rfl, hescape, quote, result, hclosed⟩ | ⟨hnot, hkept⟩
      · refine .inl ⟨rfl, hescape, quote, (found.push (.str result)).toList, ?_⟩
        rw [List.cons_append, scanFrom_of_step hclosed, scanFrom]
        rfl
      · exact .inr ⟨hnot, fun more => scanFrom_of_fault (hkept more)⟩
  | case3 depth found c rest lexeme hstep ih =>
      rw [endsInEscape_of_nextLexeme hstep]
      rcases ih h with ⟨rfl, hescape, quote, tokens, hread⟩ | ⟨hnot, hkept⟩
      · refine .inl ⟨rfl, hescape, quote, tokens, ?_⟩
        rw [List.cons_append, scanFrom_of_step (nextLexeme_append hstep [quote])]
        exact hread
      · refine .inr ⟨hnot, fun more => ?_⟩
        rw [List.cons_append, scanFrom_of_step (nextLexeme_append hstep more)]
        exact hkept more

/-- A text without tokens keeps its fault before every further line if and only if it does not end in
an escape of a string that was begun and not closed. If it does, there are lines with which it has
tokens. -/
theorem tokensOf_line_eq_error_iff {first : String} {fault : LexFault}
    (h : tokensOf first = .error fault) :
    ((∀ second, tokensOf (first ++ "\n" ++ second) = .error fault) ↔
      ¬(fault = .unfinishedString ∧ endsInEscape first.toList = true)) ∧
    (fault = .unfinishedString ∧ endsInEscape first.toList = true →
      ∃ second tokens, tokensOf (first ++ "\n" ++ second) = .ok tokens) := by
  have htext (second : String) :
      tokensOf (first ++ "\n" ++ second) = scanFrom 0 #[] (first.toList ++ '\n' :: second.toList) := by
    simp [tokensOf]
  rcases scanFrom_line_of_error h with ⟨hfault, hescape, quote, tokens, hread⟩ | ⟨hkept, hread⟩
  · have hsecond : tokensOf (first ++ "\n" ++ String.singleton quote) = .ok tokens := by
      rw [htext, String.toList_singleton, hread]
    refine ⟨iff_of_false (fun hall => ?_) fun hnot => hnot ⟨hfault, hescape⟩,
      fun _ => ⟨String.singleton quote, tokens, hsecond⟩⟩
    have := hall (String.singleton quote)
    rw [hsecond] at this
    cases this
  · refine ⟨iff_of_true (fun second => ?_) hkept, fun hboth => absurd hboth hkept⟩
    rw [htext, hread]

/-- A quote that is escaped does not end a string, and the fault of its line stays. -/
theorem tokensOf_line_eq_error_iff_of_open :
    tokensOf "x = [ 'it\\'s" = .error .unfinishedString ∧
      ¬(LexFault.unfinishedString = .unfinishedString ∧
        endsInEscape "x = [ 'it\\'s".toList = true) ∧
      ∀ second, tokensOf ("x = [ 'it\\'s" ++ "\n" ++ second) = .error .unfinishedString := by
  have hopen : tokensOf "x = [ 'it\\'s" = .error .unfinishedString := by decide +kernel
  have hends : ¬(LexFault.unfinishedString = .unfinishedString ∧
      endsInEscape "x = [ 'it\\'s".toList = true) := by decide +kernel
  exact ⟨hopen, hends, (tokensOf_line_eq_error_iff hopen).1.2 hends⟩

/-- A line feed behind a backslash is taken into the string, which the next line then closes. -/
theorem tokensOf_escaped_line_end :
    tokensOf "'\\" = .error .unfinishedString ∧
      tokensOf ("'\\" ++ "\n" ++ "'") = .ok [.str "\\\n"] := by
  decide +kernel

end Roundtable.Script
