import Mathlib.Data.List.Induction
import Roundtable.Proofs.Script.Token.WellFormed
import Roundtable.Text.Quoted
/-!
Texts that write a sequence of tokens. A token has many spellings when it is an integer, and one
otherwise; between two tokens stands layout, which may break the line while a bracket is open. Any
such text is read as the tokens that it writes, and what is read from any text can be written so,
decimals apart.
-/

namespace Roundtable.Script

/-- The texts that spell one token. A decimal has none here, since printing it may round it. -/
inductive Spells : Token → List Char → Prop where
  /-- Zeros may lead, and underscores may stand anywhere behind the first digit. -/
  | int {value : Int64} {size zeros : Nat} {first : Char} {rest : List Char} :
      value.toInt = size → first ≠ '_' →
      (first :: rest).filter (· ≠ '_') = List.replicate zeros '0' ++ Nat.toDigits 10 size →
      Spells (.int value) (first :: rest)
  | str (text : String) : Spells (.str text) (Text.quoted text).toList
  | name (word : String) : Spells (.name word) word.toList
  | keyword (reserved : Keyword) : Spells (.keyword reserved) reserved.word.toList
  | symbol (sign : Symbol) : Spells (.symbol sign) sign.text.toList
  | newline : Spells .newline ['\n']

/-- Blanks, and where lines may be broken also line feeds and the comments that end with one. -/
inductive Layout (broken : Prop) : List Char → Prop where
  | nil : Layout broken []
  | blank {c : Char} {rest : List Char} :
      c = ' ' ∨ c = '\t' ∨ c = '\r' → Layout broken rest → Layout broken (c :: rest)
  | lineFeed {rest : List Char} : broken → Layout broken rest → Layout broken ('\n' :: rest)
  | comment {text rest : List Char} :
      broken → '\n' ∉ text → Layout broken rest → Layout broken ('#' :: (text ++ '\n' :: rest))

/-- The texts that write the tokens in order. There is layout between any two of them, and none
before the first. -/
inductive Writes : List Token → List Char → Prop where
  | nil : Writes [] []
  | concat {before : List Token} {text gap word : List Char} {token : Token} :
      Writes before text → Layout (closings before < openings before) gap →
      (gap = [] ↔ before = []) → Spells token word →
      Writes (before ++ [token]) (text ++ gap ++ word)

/-! ### Where a token ends -/

/-- Nothing follows, or what no token goes on with: layout, a comma or the end of a list. -/
def Delimited : List Char → Prop
  | [] | ' ' :: _ | '\t' :: _ | '\r' :: _ | '\n' :: _ | '#' :: _ | ',' :: _ | ']' :: _ => True
  | _ => False

section Delimited

variable {rest : List Char}

theorem Layout.delimited {broken : Prop} {gap : List Char} (h : Layout broken gap)
    (hgap : gap ≠ []) (rest : List Char) : Delimited (gap ++ rest) := by
  cases h with
  | nil => exact absurd rfl hgap
  | blank hblank => rcases hblank with rfl | rfl | rfl <;> trivial
  | lineFeed => trivial
  | comment => trivial

theorem Delimited.word_ends (h : Delimited rest) :
    rest.takeWhile continuesName = [] ∧ rest.dropWhile continuesName = rest := by
  unfold Delimited at h
  split at h
  case h_9 => cases h
  all_goals exact ⟨rfl, rfl⟩

theorem Delimited.numeral_ends (h : Delimited rest) (point exponent : Bool) :
    scanNumeral point exponent rest = ([], rest) := by
  unfold Delimited at h
  split at h
  case h_9 => cases h
  all_goals unfold scanNumeral; rfl

theorem Delimited.symbol_ends (h : Delimited rest) (sign : Symbol) :
    scanSymbol? (sign.text.toList ++ rest) = some (sign, rest) := by
  unfold Delimited at h
  split at h
  case h_9 => cases h
  all_goals cases sign <;> rfl

/-- A point before any of these begins no numeral. -/
theorem Delimited.head?_any_isDigit (h : Delimited rest) :
    rest.head?.any Char.isDigit = false := by
  unfold Delimited at h
  split at h
  case h_9 => cases h
  all_goals rfl

end Delimited

/-! ### Reading one token -/

section OneToken

variable {depth : Nat} {c : Char} {tail rest content : List Char}

theorem nextLexeme_word (hfirst : beginsName c = true) (htail : ∀ d ∈ tail, continuesName d = true)
    (hrest : Delimited rest) :
    nextLexeme depth c (tail ++ rest) =
      .ok ⟨some (wordToken (String.ofList (c :: tail))), depth, rest⟩ := by
  have hstep := (@LexStep.word depth c (tail ++ rest) hfirst).eq
  rwa [List.takeWhile_append_of_pos htail, List.dropWhile_append_of_pos htail, hrest.word_ends.1,
    hrest.word_ends.2, List.append_nil] at hstep

theorem Symbol.text_eq_cons (sign : Symbol) :
    ∃ c tail, sign.text.toList = c :: tail ∧ c.isDigit = false ∧ (c = '.' → tail = []) := by
  cases sign <;> exact ⟨_, _, rfl, by decide⟩

theorem nextLexeme_symbol {sign : Symbol} {after : Nat} (hrest : Delimited rest)
    (htext : sign.text.toList = c :: tail) (hafter : sign.depthAfter? depth = some after) :
    nextLexeme depth c (tail ++ rest) = .ok ⟨some (.symbol sign), after, rest⟩ := by
  obtain ⟨d, other, hsame, hdigit, hpoint⟩ := sign.text_eq_cons
  obtain ⟨rfl, rfl⟩ := List.cons.inj (hsame.symm.trans htext)
  have hnumeral : beginsNumeral d (other ++ rest) = false := by
    by_cases hd : d = '.'
    · rw [hpoint hd, List.nil_append, beginsNumeral, hdigit, hrest.head?_any_isDigit,
        Bool.and_false, Bool.or_self]
    · simp [beginsNumeral, hdigit, hd]
  have hscan := hrest.symbol_ends sign
  rw [htext, List.cons_append] at hscan
  exact (LexStep.symbol hnumeral hscan hafter).eq

/-! A string is read back character by character, each by its escape or as itself. -/

theorem scanString_of_plain {quote : Char} (hquote : c ≠ quote) (hescape : c ≠ '\\')
    (hlineFeed : c ≠ '\n') (hrest : rest ≠ []) :
    scanString quote content (c :: rest) = scanString quote (c :: content) rest := by
  cases rest with
  | nil => exact absurd rfl hrest
  | cons d after => simp only [scanString, hquote, hescape, hlineFeed, if_false]

theorem scanString_quotedChar (c : Char) (hrest : rest ≠ []) :
    scanString '\'' content (Text.quotedChar c ++ rest) = scanString '\'' (c :: content) rest := by
  unfold Text.quotedChar
  split
  case h_6 =>
    apply scanString_of_plain <;> assumption
  all_goals rfl

theorem scanString_quoted (text content rest : List Char) :
    scanString '\'' content (text.flatMap Text.quotedChar ++ '\'' :: rest) =
      .ok (content.reverse ++ text, rest) := by
  induction text generalizing content with
  | nil =>
      rw [List.flatMap_nil, List.nil_append, List.append_nil]
      cases rest <;> simp [scanString]
  | cons c text ih =>
      rw [List.flatMap_cons, List.append_assoc, scanString_quotedChar c (by simp), ih,
        List.reverse_cons, List.append_assoc, List.singleton_append]

theorem nextLexeme_quoted (text : String) :
    nextLexeme depth '\'' (text.toList.flatMap Text.quotedChar ++ '\'' :: rest) =
      .ok ⟨some (.str text), depth, rest⟩ := by
  have hscan := scanString_quoted text.toList [] rest
  rw [List.reverse_nil, List.nil_append] at hscan
  have hstep := (@LexStep.string depth _ _ _ _ (.inl rfl) hscan).eq
  rwa [String.ofList_toList] at hstep

/-! An integer is read without its underscores, and zeros before it do not count. -/

theorem scanNumeral_digits (hdigits : ∀ d ∈ tail, d.isDigit = true ∨ d = '_')
    (hrest : Delimited rest) :
    scanNumeral false false (tail ++ rest) = (tail.filter (· ≠ '_'), rest) := by
  induction tail with
  | nil => exact hrest.numeral_ends false false
  | cons d tail ih =>
      have ih := ih fun e he => hdigits e (List.mem_cons_of_mem d he)
      rcases hdigits d List.mem_cons_self with hdigit | rfl
      · have hne : d ≠ '_' := ne_of_isDigit hdigit rfl
        rw [List.cons_append, scanNumeral.eq_def]
        simp [hdigit, hne, ih]
      · rw [List.cons_append, scanNumeral.eq_def]
        simp [ih]

theorem digitsValue_toDigits (zeros size : Nat) :
    Number.digitsValue (List.replicate zeros '0' ++ Nat.toDigits 10 size) = size := by
  have hzeros : Nat.ofDigitChars 10 (List.replicate zeros '0') 0 = 0 := by
    induction zeros with
    | zero => rfl
    | succ zeros ih => exact ih
  show Nat.ofDigitChars 10 _ 0 = size
  rw [Nat.ofDigitChars_append, hzeros, Nat.ofDigitChars_toDigits (by decide) (by decide)]

theorem toInt64?_toInt (value : Int64) : Number.toInt64? value.toInt = some value := by
  have hge := value.le_toInt
  have hlt := value.toInt_lt
  have hfits : Number.fitsInt64 value.toInt = true := by
    simp only [Number.fitsInt64, Bool.and_eq_true, decide_eq_true_eq]
    omega
  rw [Number.toInt64?, if_pos hfits, Int64.ofInt_toInt]

theorem numeralToken_of_digits {numeral : List Char} {value : Int64} (hne : numeral ≠ [])
    (hdigits : ∀ d ∈ numeral, d.isDigit = true)
    (hvalue : value.toInt = Number.digitsValue numeral) :
    numeralToken numeral = .ok (.int value) := by
  obtain ⟨first, others, rfl⟩ := List.exists_cons_of_ne_nil hne
  have hwhole : ((first :: others).any fun c => c == '.' || c == 'e' || c == 'E') = false :=
    List.any_eq_false.2 fun d hd => Bool.eq_false_iff.1 <|
      eq_false_of_isDigit (p := fun c => c == '.' || c == 'e' || c == 'E') (by decide)
        (hdigits d hd)
  have hall : (first :: others).all Char.isDigit = true := List.all_eq_true.2 hdigits
  have hread : Number.readInt64? (first :: others) = some value := by
    simp only [Number.readInt64?, splitSign_of_isDigit (hdigits first List.mem_cons_self), hall,
      List.isEmpty_cons, Bool.not_false, Bool.and_self, if_true, Bool.false_eq_true, if_false,
      ← hvalue, toInt64?_toInt]
  simp only [numeralToken, hwhole, hread, Bool.false_eq_true, if_false, Option.map_some,
    Option.elim_some]

theorem nextLexeme_int {value : Int64} {size zeros : Nat} (hvalue : value.toInt = size)
    (hfirst : c ≠ '_') (hrest : Delimited rest)
    (hdigits : (c :: tail).filter (· ≠ '_') = List.replicate zeros '0' ++ Nat.toDigits 10 size) :
    nextLexeme depth c (tail ++ rest) = .ok ⟨some (.int value), depth, rest⟩ := by
  have hall : ∀ d ∈ (c :: tail).filter (· ≠ '_'), d.isDigit = true := by
    intro d hd
    rw [hdigits] at hd
    rcases List.mem_append.1 hd with hzero | hdigit
    · rw [List.eq_of_mem_replicate hzero]
      decide
    · exact Nat.isDigit_of_mem_toDigits (by decide) (by decide) hdigit
  have hdigit : c.isDigit = true := hall c (by simp [hfirst])
  have htail : ∀ d ∈ tail, d.isDigit = true ∨ d = '_' := by
    intro d hd
    by_cases hsep : d = '_'
    · exact .inr hsep
    · exact .inl (hall d (by simp [hd, hsep]))
  have hpoint : (c == '.') = false := beq_false_of_ne (ne_of_isDigit hdigit rfl)
  have htoken : numeralToken (c :: tail.filter (· ≠ '_')) = .ok (.int value) := by
    have hcons : (c :: tail).filter (· ≠ '_') = c :: tail.filter (· ≠ '_') := by simp [hfirst]
    rw [hcons] at hall hdigits
    refine numeralToken_of_digits (List.cons_ne_nil _ _) hall ?_
    rw [hvalue, hdigits, digitsValue_toDigits]
  have hnumeral : beginsNumeral c (tail ++ rest) = true := by simp [beginsNumeral, hdigit]
  have hscan : scanNumeral (c == '.') false (tail ++ rest) = (tail.filter (· ≠ '_'), rest) := by
    rw [hpoint]
    exact scanNumeral_digits htail hrest
  exact (LexStep.numeral hnumeral hscan htoken).eq

/-! Every spelling of a token is read as that token, wherever it may stand. -/

theorem keywordText_eq_cons (reserved : Keyword) :
    ∃ first tail, reserved.word.toList = first :: tail ∧ beginsName first = true ∧
      tail.all continuesName = true := by
  cases reserved <;> exact ⟨_, _, rfl, by decide⟩

theorem wordToken_keyword (reserved : Keyword) :
    wordToken reserved.word = .keyword reserved := by
  cases reserved <;> decide

theorem wordToken_name {word : String} (h : IsName word) : wordToken word = .name word := by
  obtain ⟨-, -, -, -, -, hunreserved⟩ := h
  have hnone : Keyword.ofWord? word = none :=
    List.find?_eq_none.2 fun keyword _ hword => hunreserved keyword (of_decide_eq_true hword)
  unfold wordToken
  rw [hnone]

theorem nextLexeme_of_spells {token : Token} {word : List Char} {after : Nat}
    (hspells : Spells token word) (hlegible : token.Legible)
    (hafter : token.depthAfter? depth = some after) (hrest : Delimited rest) :
    ∃ c tail, word = c :: tail ∧
      nextLexeme depth c (tail ++ rest) = .ok ⟨some token, after, rest⟩ := by
  cases hspells with
  | int hvalue hfirst hdigits =>
      cases hafter
      exact ⟨_, _, rfl, nextLexeme_int hvalue hfirst hrest hdigits⟩
  | str text =>
      cases hafter
      refine ⟨_, _, Text.toList_quoted text, ?_⟩
      rw [List.append_assoc]
      exact nextLexeme_quoted text
  | name word =>
      cases hafter
      obtain ⟨first, tail, hword, hfirst, htail, -⟩ := id hlegible
      refine ⟨first, tail, hword, ?_⟩
      rw [nextLexeme_word _ _ hrest, ← hword, String.ofList_toList, wordToken_name hlegible]
      · simpa [beginsName] using hfirst
      · simpa [continuesName] using htail
  | keyword reserved =>
      cases hafter
      obtain ⟨first, tail, hword, hfirst, htail⟩ := keywordText_eq_cons reserved
      refine ⟨first, tail, hword, ?_⟩
      rw [nextLexeme_word hfirst (List.all_eq_true.1 htail) hrest, ← hword,
        String.ofList_toList, wordToken_keyword]
  | symbol sign =>
      obtain ⟨c, tail, htext, -⟩ := sign.text_eq_cons
      exact ⟨c, tail, htext, nextLexeme_symbol hrest htext hafter⟩
  | newline =>
      obtain ⟨rfl, hsame⟩ := Option.ite_none_right_eq_some.1 hafter
      cases hsame
      exact ⟨'\n', [], rfl, rfl⟩

end OneToken

/-! ### Reading the whole text -/

section Reading

variable {depth : Nat} {found : Array Token} {c : Char} {rest gap text : List Char}

theorem scanFrom_of_step {lexeme : Lexeme} (h : nextLexeme depth c rest = .ok lexeme) :
    scanFrom depth found (c :: rest) =
      scanFrom lexeme.depth (lexeme.token?.elim found found.push) lexeme.rest := by
  rw [scanFrom]
  split
  · rename_i hfault
    rw [h] at hfault
    cases hfault
  · rename_i hlexeme
    rw [h] at hlexeme
    cases hlexeme
    rfl

/-- Between brackets a line end is layout. -/
theorem nextLexeme_lineFeed (hopen : 0 < depth) (rest : List Char) :
    nextLexeme depth '\n' rest = .ok ⟨none, depth, rest⟩ := by
  simp [nextLexeme, Nat.ne_of_gt hopen]

theorem scanFrom_layout (h : Layout (0 < depth) gap) :
    scanFrom depth found (gap ++ rest) = scanFrom depth found rest := by
  induction h with
  | nil => rfl
  | blank hblank _ ih => exact (scanFrom_of_step (if_pos hblank)).trans ih
  | lineFeed hopen _ ih => exact (scanFrom_of_step (nextLexeme_lineFeed hopen _)).trans ih
  | @comment comment more hopen hnone _ ih =>
      have hall : ∀ d ∈ comment, decide (d ≠ '\n') = true := fun d hd =>
        decide_eq_true fun heq => hnone (heq ▸ hd)
      have hstep : nextLexeme depth '#' (comment ++ '\n' :: (more ++ rest)) =
          .ok ⟨none, depth, '\n' :: (more ++ rest)⟩ := by
        show Except.ok (Lexeme.mk none depth _) = _
        rw [List.dropWhile_append_of_pos hall]
        rfl
      rw [List.cons_append, List.append_assoc, List.cons_append]
      calc scanFrom depth found ('#' :: (comment ++ '\n' :: (more ++ rest)))
          = scanFrom depth found ('\n' :: (more ++ rest)) := scanFrom_of_step hstep
        _ = scanFrom depth found (more ++ rest) := scanFrom_of_step (nextLexeme_lineFeed hopen _)
        _ = scanFrom depth found rest := ih

/-- A text that writes tokens is read as those tokens, before anything that can follow them. The
induction is on the tokens from the last, as the lexer has found all tokens before. -/
theorem scanFrom_of_writes {tokens : List Token} (h : Writes tokens text)
    (hformed : WellFormed tokens) :
    ∃ depth, depth + closings tokens = openings tokens ∧
      ∀ rest, (tokens ≠ [] → Delimited rest) →
        scanFrom 0 #[] (text ++ rest) = scanFrom depth tokens.toArray rest := by
  induction h with
  | nil => exact ⟨0, rfl, fun _ _ => rfl⟩
  | @concat before text gap word token _ hgap hempty hspells ih =>
      obtain ⟨depth, hdepth, hbefore⟩ := ih hformed.of_concat
      obtain ⟨-, hlegible, after, hafter⟩ := (wellFormed_concat_iff hdepth).1 hformed
      have hopen : closings before < openings before ↔ 0 < depth := by omega
      rw [hopen] at hgap
      refine ⟨after, depth_concat hdepth hafter, fun rest hrest => ?_⟩
      have hrest := hrest (by simp)
      obtain ⟨c, tail, rfl, hstep⟩ := nextLexeme_of_spells hspells hlegible hafter hrest
      calc scanFrom 0 #[] (text ++ gap ++ c :: tail ++ rest)
          = scanFrom 0 #[] (text ++ (gap ++ (c :: tail ++ rest))) := by
            simp only [List.append_assoc]
        _ = scanFrom depth before.toArray (gap ++ (c :: tail ++ rest)) :=
            hbefore _ fun hne => hgap.delimited (fun h => hne (hempty.1 h)) _
        _ = scanFrom depth before.toArray (c :: (tail ++ rest)) := scanFrom_layout hgap
        _ = scanFrom after (before.toArray.push token) rest := scanFrom_of_step hstep
        _ = scanFrom after (before ++ [token]).toArray rest := by rw [List.push_toArray]

theorem tokensOf_of_writes {tokens : List Token} (h : Writes tokens text)
    (hformed : WellFormed tokens) : tokensOf (String.ofList text) = .ok tokens := by
  obtain ⟨depth, -, hread⟩ := scanFrom_of_writes h hformed
  have hread := hread [] fun _ => trivial
  rw [List.append_nil] at hread
  rw [tokensOf, String.toList_ofList, hread, scanFrom]

end Reading

/-! ### Writing -/

theorem exists_spells {token : Token} (hlegible : token.Legible) (hfloat : ∀ x, token ≠ .float x) :
    ∃ word, Spells token word := by
  cases token with
  | int value =>
      have hsize : value.toInt = value.toInt.toNat :=
        (Int.toNat_of_nonneg (Int64.le_iff_toInt_le.1 hlegible)).symm
      obtain ⟨first, rest, hdigits⟩ := List.exists_cons_of_ne_nil
        (Nat.toDigits_ne_nil (n := value.toInt.toNat) (b := 10))
      have hne : ∀ d ∈ first :: rest, d ≠ '_' := by
        intro d hd
        rw [← hdigits] at hd
        exact ne_of_isDigit (Nat.isDigit_of_mem_toDigits (by decide) (by decide) hd) rfl
      have hkept : (first :: rest).filter (· ≠ '_') =
          List.replicate 0 '0' ++ Nat.toDigits 10 value.toInt.toNat := by
        rw [hdigits]
        exact List.filter_eq_self.2 fun d hd => decide_eq_true (hne d hd)
      exact ⟨first :: rest, .int hsize (hne first List.mem_cons_self) hkept⟩
  | float x => exact absurd rfl (hfloat x)
  | str text => exact ⟨_, .str text⟩
  | name word => exact ⟨_, .name word⟩
  | keyword reserved => exact ⟨_, .keyword reserved⟩
  | symbol sign => exact ⟨_, .symbol sign⟩
  | newline => exact ⟨_, .newline⟩

/-- Each token can be spelled, and one blank is layout anywhere. -/
theorem exists_writes {tokens : List Token} (hformed : WellFormed tokens)
    (hfloat : ∀ x, .float x ∉ tokens) : ∃ text, Writes tokens text := by
  induction tokens using List.reverseRecOn with
  | nil => exact ⟨[], .nil⟩
  | append_singleton before token ih =>
      obtain ⟨text, htext⟩ := ih hformed.of_concat fun x hx =>
        hfloat x (List.mem_append_left [token] hx)
      obtain ⟨word, hword⟩ := exists_spells (hformed.legible token (by simp)) fun x hx =>
        hfloat x (by simp [hx])
      by_cases hfirst : before = []
      · exact ⟨_, htext.concat .nil (by simp [hfirst]) hword⟩
      · exact ⟨_, htext.concat (.blank (.inl rfl) .nil) (by simp [hfirst]) hword⟩

/-- The lexer gives well-formed sequences only. Each of them without decimals has texts that write
it, and the lexer gives it back for every one of these. -/
theorem lexer_image :
    (∀ source tokens, tokensOf source = .ok tokens → WellFormed tokens) ∧
    ∀ tokens, WellFormed tokens → (∀ x, .float x ∉ tokens) →
      (∃ text, Writes tokens text) ∧
        ∀ text, Writes tokens text → tokensOf (String.ofList text) = .ok tokens :=
  ⟨fun _ _ h => tokensOf_wellFormed h, fun _ hformed hfloat =>
    ⟨exists_writes hformed hfloat, fun _ htext => tokensOf_of_writes htext hformed⟩⟩

/-- A list over two lines, with a comment in it and a numeral written in an unusual way. -/
theorem lexer_image_of_list :
    let tokens : List Token := [.symbol .leftBracket, .int 7, .symbol .rightBracket, .newline]
    WellFormed tokens ∧ tokensOf "[ 0_7\t#7\n] \n" = .ok tokens := by
  intro tokens
  have hone : WellFormed [.symbol .leftBracket] :=
    (wellFormed_concat_iff (show 0 + closings [] = openings [] from rfl)).2
      ⟨wellFormed_nil, trivial, 1, rfl⟩
  have htwo : WellFormed [.symbol .leftBracket, .int 7] :=
    (wellFormed_concat_iff (show 1 + closings [.symbol .leftBracket] = openings _ from rfl)).2
      ⟨hone, show (0 : Int64) ≤ 7 by decide, 1, rfl⟩
  have hthree : WellFormed [.symbol .leftBracket, .int 7, .symbol .rightBracket] :=
    (wellFormed_concat_iff
      (show 1 + closings [.symbol .leftBracket, .int 7] = openings _ from rfl)).2
      ⟨htwo, trivial, 0, rfl⟩
  have hformed : WellFormed tokens :=
    (wellFormed_concat_iff
      (show 0 + closings [.symbol .leftBracket, .int 7, .symbol .rightBracket] = openings _
        from rfl)).2 ⟨hthree, trivial, 0, rfl⟩
  have hbracket : Writes [.symbol .leftBracket] ['['] :=
    Writes.nil.concat .nil (by decide) (.symbol .leftBracket)
  have hseven : Writes [.symbol .leftBracket, .int 7] "[ 0_7".toList :=
    hbracket.concat (.blank (.inl rfl) .nil) (by decide)
      (@Spells.int 7 7 1 '0' ['_', '7'] rfl (by decide) rfl)
  have hlist : Writes [.symbol .leftBracket, .int 7, .symbol .rightBracket]
      "[ 0_7\t#7\n]".toList :=
    hseven.concat
      (.blank (.inr (.inl rfl)) (@Layout.comment _ ['7'] [] (by decide) (by decide) .nil))
      (by decide) (.symbol .rightBracket)
  have hwrites : Writes tokens "[ 0_7\t#7\n] \n".toList :=
    hlist.concat (.blank (.inl rfl) .nil) (by decide) .newline
  have hlex := (lexer_image.2 tokens hformed (by simp [tokens])).2 _ hwrites
  exact ⟨lexer_image.1 _ _ hlex, hlex⟩

end Roundtable.Script
