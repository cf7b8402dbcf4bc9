import Roundtable.Number.Numeral
import Roundtable.Script.Token
import Roundtable.Text.Letter
/-!
From the text of a script to its tokens. The text is read from the left, one token or one stretch
of layout at a time; each step returns what is left of the text, which is shorter, and the whole
reading ends by that. Between brackets line ends are layout, so the number of open brackets is
carried along.
-/

namespace Roundtable.Script

/-- Why a text has no tokens. -/
inductive LexFault where
  /-- A line ends before the string that was begun on it. -/
  | unfinishedString
  /-- No token begins with this character. -/
  | unexpectedChar (c : Char)
  /-- A numeral that is neither an integer of 64 bits nor a decimal. -/
  | invalidNumber (text : String)
  /-- A closing bracket where none is open. -/
  | unmatchedBracket (c : Char)
  deriving DecidableEq, Repr

def LexFault.message : LexFault → String
  | .unfinishedString => "unterminated string literal"
  | .unexpectedChar c => "invalid character '" ++ c.toString ++ "'"
  | .invalidNumber text => "invalid number literal '" ++ text ++ "'"
  | .unmatchedBracket c => "unmatched '" ++ c.toString ++ "'"

def beginsName (c : Char) : Bool :=
  Text.isAlphabetic c || c == '_'

def continuesName (c : Char) : Bool :=
  Text.isAlphanumeric c || c == '_'

/-- What a backslash and the character after it stand for; an escape without a meaning stands for
itself. -/
def unescape : Char → List Char
  | 'n' => ['\n']
  | 't' => ['\t']
  | 'r' => ['\r']
  | '0' => ['\x00']
  | '\\' => ['\\']
  | '\'' => ['\'']
  | '"' => ['"']
  | c => ['\\', c]

/-- The content of a string up to its closing quote, and the text behind that. `content` holds
what has been read so far, last character first. -/
def scanString (quote : Char) (content : List Char) :
    List Char → Except LexFault (List Char × List Char)
  | [] => .error .unfinishedString
  | [c] => if c = quote then .ok (content.reverse, []) else .error .unfinishedString
  | c :: d :: rest =>
    if c = quote then .ok (content.reverse, d :: rest)
    else if c = '\\' then scanString quote ((unescape d).reverse ++ content) rest
    else if c = '\n' then .error .unfinishedString
    else scanString quote (c :: content) (d :: rest)

/-- The numeral at the head of a text without its underscores, and the text behind it. `point` and
`exponent` say whether the numeral has had its point or its exponent; after an exponent there is
no point. -/
def scanNumeral (point exponent : Bool) : List Char → List Char × List Char
  | [] => ([], [])
  | c :: rest =>
    if c.isDigit then
      let (numeral, after) := scanNumeral point exponent rest
      (c :: numeral, after)
    else if c = '_' then scanNumeral point exponent rest
    else if c = '.' ∧ ¬ point ∧ ¬ exponent then
      let (numeral, after) := scanNumeral true exponent rest
      (c :: numeral, after)
    else if (c = 'e' ∨ c = 'E') ∧ ¬ exponent then
      match rest with
      | sign :: digits =>
        if sign = '+' ∨ sign = '-' then
          let (numeral, after) := scanNumeral point true digits
          (c :: sign :: numeral, after)
        else
          let (numeral, after) := scanNumeral point true (sign :: digits)
          (c :: numeral, after)
      | [] => ([c], [])
    else ([], c :: rest)

/-- The token of a numeral. A point or an exponent makes it a decimal one. -/
def numeralToken (numeral : List Char) : Except LexFault Token :=
  let token :=
    if numeral.any fun c => c == '.' || c == 'e' || c == 'E' then
      (Number.readFloat? numeral).map .float
    else (Number.readInt64? numeral).map .int
  token.elim (.error (.invalidNumber (String.ofList numeral))) .ok

/-- The token of a word: a reserved one or a name. -/
def wordToken (word : String) : Token :=
  match Keyword.ofWord? word with
  | some keyword => .keyword keyword
  | none => .name word

/-- The sign at the head of a text and the text behind it. The longest sign is taken. -/
def scanSymbol? : List Char → Option (Symbol × List Char)
  | '*' :: '*' :: rest => some (.doubleStar, rest)
  | '/' :: '/' :: rest => some (.doubleSlash, rest)
  | '+' :: '=' :: rest => some (.plusAssign, rest)
  | '-' :: '=' :: rest => some (.minusAssign, rest)
  | '*' :: '=' :: rest => some (.starAssign, rest)
  | '/' :: '=' :: rest => some (.slashAssign, rest)
  | '=' :: '=' :: rest => some (.equal, rest)
  | '!' :: '=' :: rest => some (.notEqual, rest)
  | '<' :: '=' :: rest => some (.lessEqual, rest)
  | '>' :: '=' :: rest => some (.greaterEqual, rest)
  | '+' :: rest => some (.plus, rest)
  | '-' :: rest => some (.minus, rest)
  | '*' :: rest => some (.star, rest)
  | '/' :: rest => some (.slash, rest)
  | '%' :: rest => some (.percent, rest)
  | '=' :: rest => some (.assign, rest)
  | '<' :: rest => some (.less, rest)
  | '>' :: rest => some (.greater, rest)
  | '(' :: rest => some (.leftParen, rest)
  | ')' :: rest => some (.rightParen, rest)
  | '[' :: rest => some (.leftBracket, rest)
  | ']' :: rest => some (.rightBracket, rest)
  | ',' :: rest => some (.comma, rest)
  | '.' :: rest => some (.dot, rest)
  | ';' :: rest => some (.semicolon, rest)
  | _ => none

/-- The number of open brackets after a sign, if it closes only what is open. -/
def Symbol.depthAfter? (depth : Nat) : Symbol → Option Nat
  | .leftParen | .leftBracket => some (depth + 1)
  | .rightParen | .rightBracket => if depth = 0 then none else some (depth - 1)
  | _ => some depth

/-- One step of reading: the token, unless layout was read, the number of brackets then open, and
the rest of the text. -/
structure Lexeme where
  token? : Option Token
  depth : Nat
  rest : List Char

/-- Whether a numeral begins with these characters: a digit, or a point before a digit. -/
def beginsNumeral (c : Char) (rest : List Char) : Bool :=
  c.isDigit || (c == '.' && rest.head?.any Char.isDigit)

/-- Reads one step from the text `c :: rest`. -/
def nextLexeme (depth : Nat) (c : Char) (rest : List Char) : Except LexFault Lexeme :=
  if c = ' ' ∨ c = '\t' ∨ c = '\r' then .ok ⟨none, depth, rest⟩
  else if c = '\n' then .ok ⟨if depth = 0 then some .newline else none, depth, rest⟩
  else if c = '#' then .ok ⟨none, depth, rest.dropWhile (· ≠ '\n')⟩
  else if c = '\'' ∨ c = '"' then do
    let (content, after) ← scanString c [] rest
    return ⟨some (.str (String.ofList content)), depth, after⟩
  else if beginsNumeral c rest then do
    let (numeral, after) := scanNumeral (c == '.') false rest
    let token ← numeralToken (c :: numeral)
    return ⟨some token, depth, after⟩
  else if beginsName c then
    let word := String.ofList (c :: rest.takeWhile continuesName)
    .ok ⟨some (wordToken word), depth, rest.dropWhile continuesName⟩
  else
    match scanSymbol? (c :: rest) with
    | none => .error (.unexpectedChar c)
    | some (symbol, after) =>
      match symbol.depthAfter? depth with
      | none => .error (.unmatchedBracket c)
      | some depth => .ok ⟨some (.symbol symbol), depth, after⟩

private theorem dropWhile_length (p : Char → Bool) (text : List Char) :
    (text.dropWhile p).length ≤ text.length :=
  (List.dropWhile_suffix p).sublist.length_le

theorem scanString_shorter {quote : Char} {content text result after : List Char}
    (h : scanString quote content text = .ok (result, after)) : after.length < text.length := by
  fun_induction scanString quote content text <;> simp_all <;> omega

theorem scanNumeral_shorter (point exponent : Bool) (text : List Char) :
    (scanNumeral point exponent text).2.length ≤ text.length := by
  fun_induction scanNumeral point exponent text <;> simp_all <;> omega

theorem scanSymbol?_shorter {text after : List Char} {symbol : Symbol}
    (h : scanSymbol? text = some (symbol, after)) : after.length < text.length := by
  unfold scanSymbol? at h
  split at h <;> cases h <;> simp only [List.length_cons] <;> omega

theorem eq_unfinishedString_of_scanString {quote : Char} {content text : List Char}
    {fault : LexFault} (h : scanString quote content text = .error fault) :
    fault = .unfinishedString := by
  fun_induction scanString quote content text <;> simp_all

theorem eq_invalidNumber_of_numeralToken {numeral : List Char} {fault : LexFault}
    (h : numeralToken numeral = .error fault) : fault = .invalidNumber (String.ofList numeral) := by
  unfold numeralToken at h
  split at h
  · cases hread : Number.readFloat? numeral <;> rw [hread] at h <;> cases h
    rfl
  · cases hread : Number.readInt64? numeral <;> rw [hread] at h <;> cases h
    rfl

/-- The characters that tell at once what begins with them. -/
def decisive : List Char := [' ', '\t', '\r', '\n', '#', '\'', '"']

/-- All that one step can make of the text `c :: rest`. The cases exclude each other. -/
inductive LexStep (depth : Nat) (c : Char) (rest : List Char) : Except LexFault Lexeme → Prop where
  | blank : c = ' ' ∨ c = '\t' ∨ c = '\r' → LexStep depth c rest (.ok ⟨none, depth, rest⟩)
  | lineFeed : c = '\n' →
      LexStep depth c rest (.ok ⟨if depth = 0 then some .newline else none, depth, rest⟩)
  | comment : c = '#' → LexStep depth c rest (.ok ⟨none, depth, rest.dropWhile (· ≠ '\n')⟩)
  | string {content after : List Char} : c = '\'' ∨ c = '"' →
      scanString c [] rest = .ok (content, after) →
      LexStep depth c rest (.ok ⟨some (.str (String.ofList content)), depth, after⟩)
  | openString : c = '\'' ∨ c = '"' → scanString c [] rest = .error .unfinishedString →
      LexStep depth c rest (.error .unfinishedString)
  | numeral {numeral after : List Char} {token : Token} : beginsNumeral c rest = true →
      scanNumeral (c == '.') false rest = (numeral, after) →
      numeralToken (c :: numeral) = .ok token →
      LexStep depth c rest (.ok ⟨some token, depth, after⟩)
  | badNumeral {numeral after : List Char} : beginsNumeral c rest = true →
      scanNumeral (c == '.') false rest = (numeral, after) →
      numeralToken (c :: numeral) = .error (.invalidNumber (String.ofList (c :: numeral))) →
      LexStep depth c rest (.error (.invalidNumber (String.ofList (c :: numeral))))
  | word : beginsName c = true →
      LexStep depth c rest (.ok ⟨some (wordToken (String.ofList (c :: rest.takeWhile continuesName))),
        depth, rest.dropWhile continuesName⟩)
  | symbol {symbol : Symbol} {after : List Char} {next : Nat} : beginsNumeral c rest = false →
      scanSymbol? (c :: rest) = some (symbol, after) → symbol.depthAfter? depth = some next →
      LexStep depth c rest (.ok ⟨some (.symbol symbol), next, after⟩)
  | unmatched {symbol : Symbol} {after : List Char} : beginsNumeral c rest = false →
      scanSymbol? (c :: rest) = some (symbol, after) → symbol.depthAfter? depth = none →
      LexStep depth c rest (.error (.unmatchedBracket c))
  | unexpected : c ∉ decisive → beginsNumeral c rest = false → beginsName c = false →
      scanSymbol? (c :: rest) = none → LexStep depth c rest (.error (.unexpectedChar c))

section Step

variable {depth : Nat} {c : Char} {rest : List Char} {lexeme : Lexeme}
  {result : Except LexFault Lexeme}

theorem LexStep.of_eq (h : nextLexeme depth c rest = result) : LexStep depth c rest result := by
  subst h
  unfold nextLexeme
  split
  · rename_i hblank
    exact .blank hblank
  split
  · rename_i hlineFeed
    exact .lineFeed hlineFeed
  split
  · rename_i hcomment
    exact .comment hcomment
  split
  · rename_i hquote
    cases hscan : scanString c [] rest with
    | error fault =>
        cases eq_unfinishedString_of_scanString hscan
        exact .openString hquote hscan
    | ok read => exact .string hquote hscan
  split
  · rename_i hnumeral
    dsimp only
    cases htoken : numeralToken (c :: (scanNumeral (c == '.') false rest).1) with
    | error fault =>
        cases eq_invalidNumber_of_numeralToken htoken
        exact .badNumeral hnumeral rfl htoken
    | ok token => exact .numeral hnumeral rfl htoken
  split
  · rename_i hname
    exact .word hname
  rename_i hblank hlineFeed hcomment hquote hnumeral hname
  have hnumeral := Bool.eq_false_iff.2 hnumeral
  cases hscan : scanSymbol? (c :: rest) with
  | none =>
      refine .unexpected ?_ hnumeral (Bool.eq_false_iff.2 hname) hscan
      simp_all [decisive]
  | some read =>
      obtain ⟨symbol, after⟩ := read
      dsimp only
      cases hdepth : symbol.depthAfter? depth with
      | none => exact .unmatched hnumeral hscan hdepth
      | some next => exact .symbol hnumeral hscan hdepth

theorem nextLexeme_shorter (h : nextLexeme depth c rest = .ok lexeme) :
    lexeme.rest.length < (c :: rest).length := by
  cases LexStep.of_eq h with
  | blank | lineFeed => exact Nat.lt_succ_self _
  | comment => exact Nat.lt_succ_of_le (dropWhile_length _ rest)
  | string _ hscan => exact Nat.lt_succ_of_lt (scanString_shorter hscan)
  | numeral _ hscan =>
      have hle := scanNumeral_shorter (c == '.') false rest
      rw [hscan] at hle
      exact Nat.lt_succ_of_le hle
  | word => exact Nat.lt_succ_of_le (dropWhile_length _ rest)
  | symbol _ hscan => exact scanSymbol?_shorter hscan

end Step

/-- The tokens of a text, behind those already `found`, where `depth` brackets are open. -/
def scanFrom (depth : Nat) (found : Array Token) (text : List Char) :
    Except LexFault (List Token) :=
  match text with
  | [] => .ok found.toList
  | c :: rest =>
    match _step : nextLexeme depth c rest with
    | .error fault => .error fault
    | .ok lexeme =>
      scanFrom lexeme.depth (lexeme.token?.elim found found.push) lexeme.rest
termination_by text.length
decreasing_by exact nextLexeme_shorter ‹_›

def tokensOf (source : String) : Except LexFault (List Token) :=
  scanFrom 0 #[] source.toList

end Roundtable.Script
