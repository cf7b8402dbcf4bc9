import Roundtable.Script.Program
import Roundtable.Script.Token
/-!
From tokens to expressions and programs, by recursive descent. Signs bind, from loosest to tightest:
`or`, `and`, `not`, comparison chains, `+ -`, `* / // %`, the signs before an operand, `**`, and
calls, subscripts and attributes.

A parser leaves fewer tokens than it was given, and carries that fact with it. Going back from a
tight level to a loose one, inside brackets or behind a prefix sign, takes one of a hundred levels of
nesting; the descent is by recursion on their number, and each loop ends because the tokens do.
-/

namespace Roundtable.Script

/-- Why tokens are no expression or no program. -/
inductive SyntaxFault where
  | unexpected (token : Token)
  | unexpectedEnd
  /-- The left side of an assignment is neither a name nor a subscript. -/
  | notAssignable
  /-- A deletion without a name. -/
  | nameExpected
  /-- More levels of brackets and prefix signs than are allowed. -/
  | tooDeep
  deriving DecidableEq

def SyntaxFault.message : SyntaxFault → String
  | .unexpected token => "invalid syntax: unexpected '" ++ token.display ++ "'"
  | .unexpectedEnd => "invalid syntax: unexpected end of input"
  | .notAssignable => "cannot assign to expression"
  | .nameExpected => "invalid syntax: expected a name after 'del'"
  | .tooDeep => "too many nested parentheses or operators"

/-- What reading from the head of the tokens gives: a value and the tokens behind it. -/
abbrev Reading (α : Type) := Except SyntaxFault (α × List Token)

/-- A way of reading a value, which takes at least one token. -/
structure Parser (α : Type) where
  run : List Token → Reading α
  shrinks : ∀ {tokens value rest}, run tokens = .ok (value, rest) → rest.length < tokens.length

namespace Parser

/-- The fault of tokens of which none was expected at the head. -/
def unexpectedHead : List Token → SyntaxFault
  | [] => .unexpectedEnd
  | token :: _ => .unexpected token

/-- The kinds of expression that a level of nesting can begin with. -/
inductive Nested where
  /-- Any expression, as between brackets. -/
  | expression
  /-- The operand of `not`. -/
  | negated
  /-- The operand of a sign, or the right side of `**`. -/
  | signed
  deriving DecidableEq, Repr

/-- The operands and signs behind `left`, combined from the left. -/
def chainFrom (operator : Token → Option (Expr → Expr → Expr)) (operand : Parser Expr)
    (left : Expr) (tokens : List Token) : Reading Expr :=
  match tokens with
  | [] => .ok (left, [])
  | token :: after =>
    match operator token with
    | none => .ok (left, token :: after)
    | some combine =>
      match _read : operand.run after with
      | .error fault => .error fault
      | .ok (right, rest) => chainFrom operator operand (combine left right) rest
termination_by tokens.length
decreasing_by
  have := operand.shrinks ‹_›
  simp only [List.length_cons]; omega

theorem chainFrom_length {operator : Token → Option (Expr → Expr → Expr)} {operand : Parser Expr}
    {left value : Expr} {tokens rest : List Token}
    (h : chainFrom operator operand left tokens = .ok (value, rest)) :
    rest.length ≤ tokens.length := by
  fun_induction chainFrom operator operand left tokens with
  | case1 => simp_all
  | case2 => simp_all
  | case3 => simp_all
  | case4 left token after combine _ right middle read ih =>
    have := operand.shrinks read
    have := ih h
    simp only [List.length_cons]; omega

/-- Operands with signs between them, combined from the left. -/
def chain (operator : Token → Option (Expr → Expr → Expr)) (operand : Parser Expr) :
    Parser Expr where
  run tokens :=
    match operand.run tokens with
    | .error fault => .error fault
    | .ok (first, rest) => chainFrom operator operand first rest
  shrinks h := by
    split at h
    · cases h
    · rename_i read
      have := operand.shrinks read
      have := chainFrom_length h
      omega

/-- Expressions with commas between them and perhaps one at the end, up to the sign `close`, behind
those already read. -/
def itemsFrom (expression : Parser Expr) (close : Symbol) (items : Array Expr)
    (tokens : List Token) : Reading (List Expr) :=
  if tokens.head? = some (.symbol close) then .ok (items.toList, tokens.tail)
  else
    match _read : expression.run tokens with
    | .error fault => .error fault
    | .ok (_, []) => .error .unexpectedEnd
    | .ok (item, next :: rest) =>
      if next = .symbol .comma then itemsFrom expression close (items.push item) rest
      else if next = .symbol close then .ok ((items.push item).toList, rest)
      else .error (.unexpected next)
termination_by tokens.length
decreasing_by
  have := expression.shrinks ‹_›
  simp only [List.length_cons] at this; omega

theorem itemsFrom_length {expression : Parser Expr} {close : Symbol} {items : Array Expr}
    {tokens rest : List Token} {values : List Expr}
    (h : itemsFrom expression close items tokens = .ok (values, rest)) :
    rest.length < tokens.length := by
  fun_induction itemsFrom expression close items tokens with
  | case1 items tokens closed =>
    cases tokens with
    | nil => simp at closed
    | cons => simp_all
  | case2 => cases h
  | case3 => cases h
  | case4 items tokens _ item behind read ih =>
    have := expression.shrinks read
    have := ih h
    simp only [List.length_cons] at *; omega
  | case5 items tokens _ item behind read =>
    have := expression.shrinks read
    simp only [List.length_cons] at this
    cases h; omega
  | case6 => cases h

/-- A literal, a name, an expression in parentheses or a list. -/
def atomRun (expression : Parser Expr) : List Token → Reading Expr
  | .int value :: rest => .ok (.int value, rest)
  | .float value :: rest => .ok (.float value, rest)
  | .str text :: rest => .ok (.str text, rest)
  | .name word :: rest => .ok (.name word, rest)
  | .keyword .true :: rest => .ok (.bool true, rest)
  | .keyword .false :: rest => .ok (.bool false, rest)
  | .keyword .none :: rest => .ok (.none, rest)
  | .symbol .leftParen :: rest =>
    match expression.run rest with
    | .error fault => .error fault
    | .ok (inner, .symbol .rightParen :: behind) => .ok (inner, behind)
    | .ok (_, behind) => .error (unexpectedHead behind)
  | .symbol .leftBracket :: rest =>
    match itemsFrom expression .rightBracket #[] rest with
    | .error fault => .error fault
    | .ok (items, behind) => .ok (.list items, behind)
  | tokens => .error (unexpectedHead tokens)

def atom (expression : Parser Expr) : Parser Expr where
  run := atomRun expression
  shrinks {tokens value rest} h := by
    unfold atomRun at h
    split at h <;> try (cases h <;> simp)
    · split at h <;> cases h
      rename_i read
      have := expression.shrinks read
      simp only [List.length_cons] at *; omega
    · split at h <;> cases h
      rename_i read
      have := itemsFrom_length read
      simp only [List.length_cons]; omega

/-- The calls, subscripts and attributes behind `object`. -/
def postfixFrom (expression : Parser Expr) (object : Expr) (tokens : List Token) : Reading Expr :=
  match tokens with
  | .symbol .leftParen :: after =>
    match _read : itemsFrom expression .rightParen #[] after with
    | .error fault => .error fault
    | .ok (arguments, rest) => postfixFrom expression (.call object arguments) rest
  | .symbol .leftBracket :: after =>
    match _read : expression.run after with
    | .error fault => .error fault
    | .ok (position, .symbol .rightBracket :: rest) =>
      postfixFrom expression (.index object position) rest
    | .ok (_, behind) => .error (unexpectedHead behind)
  | .symbol .dot :: .name word :: rest => postfixFrom expression (.attribute object word) rest
  | .symbol .dot :: behind => .error (unexpectedHead behind)
  | tokens => .ok (object, tokens)
termination_by tokens.length
decreasing_by
  · have := itemsFrom_length ‹_›
    simp only [List.length_cons]; omega
  · have := expression.shrinks ‹_›
    simp only [List.length_cons] at *; omega
  · simp only [List.length_cons]; omega

theorem postfixFrom_length {expression : Parser Expr} {object value : Expr}
    {tokens rest : List Token} (h : postfixFrom expression object tokens = .ok (value, rest)) :
    rest.length ≤ tokens.length := by
  fun_induction postfixFrom expression object tokens with
  | case1 => cases h
  | case2 object after arguments behind read ih =>
    have := itemsFrom_length read
    have := ih h
    simp only [List.length_cons]; omega
  | case3 => cases h
  | case4 object after position behind read ih =>
    have := expression.shrinks read
    have := ih h
    simp only [List.length_cons] at *; omega
  | case5 => cases h
  | case6 object word behind ih =>
    have := ih h
    simp only [List.length_cons]; omega
  | case7 => cases h
  | case8 => cases h; omega

/-- An atom with what is applied to it. -/
def postfixed (expression : Parser Expr) : Parser Expr where
  run tokens :=
    match (atom expression).run tokens with
    | .error fault => .error fault
    | .ok (object, rest) => postfixFrom expression object rest
  shrinks h := by
    split at h
    · cases h
    · rename_i read
      have := (atom expression).shrinks read
      have := postfixFrom_length h
      omega

/-- A power binds its base tighter than a sign before it and its exponent looser than one, so
`-2 ** 2` is `-(2 ** 2)` and `2 ** -1` is allowed. -/
def power (inner : Nested → Parser Expr) : Parser Expr where
  run tokens :=
    match (postfixed (inner .expression)).run tokens with
    | .error fault => .error fault
    | .ok (base, .symbol .doubleStar :: after) =>
      match (inner .signed).run after with
      | .error fault => .error fault
      | .ok (exponent, rest) => .ok (.binary .pow base exponent, rest)
    | .ok (base, rest) => .ok (base, rest)
  shrinks h := by
    split at h
    · cases h
    · rename_i read
      have := (postfixed (inner .expression)).shrinks read
      split at h <;> cases h
      rename_i read'
      have := (inner .signed).shrinks read'
      simp only [List.length_cons] at *; omega
    · rename_i read
      cases h
      exact (postfixed (inner .expression)).shrinks read

/-- The operand behind a prefix operator. -/
def prefixedRun (op : UnaryOp) (operand : Parser Expr) (tokens : List Token) : Reading Expr :=
  match operand.run tokens with
  | .error fault => .error fault
  | .ok (value, rest) => .ok (.unary op value, rest)

theorem prefixedRun_length {op : UnaryOp} {operand : Parser Expr} {tokens rest : List Token}
    {value : Expr} (h : prefixedRun op operand tokens = .ok (value, rest)) :
    rest.length < tokens.length := by
  unfold prefixedRun at h
  split at h <;> cases h
  rename_i read
  exact operand.shrinks read

/-- A sign, if there is one, and its operand. -/
def signedRun (inner : Nested → Parser Expr) : List Token → Reading Expr
  | .symbol .minus :: after => prefixedRun .neg (inner .signed) after
  | .symbol .plus :: after => prefixedRun .pos (inner .signed) after
  | tokens => (power inner).run tokens

def signed (inner : Nested → Parser Expr) : Parser Expr where
  run := signedRun inner
  shrinks h := by
    unfold signedRun at h
    split at h
    · have := prefixedRun_length h
      simp only [List.length_cons]; omega
    · have := prefixedRun_length h
      simp only [List.length_cons]; omega
    · exact (power inner).shrinks h

def termOperator : Token → Option (Expr → Expr → Expr)
  | .symbol .star => some (.binary .mul)
  | .symbol .slash => some (.binary .div)
  | .symbol .doubleSlash => some (.binary .floorDiv)
  | .symbol .percent => some (.binary .mod)
  | _ => none

def additiveOperator : Token → Option (Expr → Expr → Expr)
  | .symbol .plus => some (.binary .add)
  | .symbol .minus => some (.binary .sub)
  | _ => none

def andOperator : Token → Option (Expr → Expr → Expr)
  | .keyword .and => some (.logical .and)
  | _ => none

def orOperator : Token → Option (Expr → Expr → Expr)
  | .keyword .or => some (.logical .or)
  | _ => none

def additive (inner : Nested → Parser Expr) : Parser Expr :=
  chain additiveOperator (chain termOperator (signed inner))

/-- The comparison sign at the head of the tokens, and the tokens behind it. A `not` is one only
together with an `in`. -/
def comparisonSign? : List Token → Option (CompareOp × List Token)
  | .symbol .equal :: rest => some (.eq, rest)
  | .symbol .notEqual :: rest => some (.ne, rest)
  | .symbol .less :: rest => some (.lt, rest)
  | .symbol .lessEqual :: rest => some (.le, rest)
  | .symbol .greater :: rest => some (.gt, rest)
  | .symbol .greaterEqual :: rest => some (.ge, rest)
  | .keyword .in :: rest => some (.in, rest)
  | .keyword .not :: .keyword .in :: rest => some (.notIn, rest)
  | _ => none

theorem comparisonSign?_length {tokens rest : List Token} {op : CompareOp}
    (h : comparisonSign? tokens = some (op, rest)) : rest.length < tokens.length := by
  unfold comparisonSign? at h
  split at h <;> cases h <;> simp only [List.length_cons] <;> omega

/-- The further comparisons of a chain that begins with `first`, behind those already read. -/
def comparisonsFrom (operand : Parser Expr) (first : Expr) (further : Array (CompareOp × Expr))
    (tokens : List Token) : Reading Expr :=
  match _sign : comparisonSign? tokens with
  | none => .ok (if further.isEmpty then first else .compare first further.toList, tokens)
  | some (op, after) =>
    match _read : operand.run after with
    | .error fault => .error fault
    | .ok (right, rest) => comparisonsFrom operand first (further.push (op, right)) rest
termination_by tokens.length
decreasing_by
  have := comparisonSign?_length ‹_›
  have := operand.shrinks ‹_›
  omega

theorem comparisonsFrom_length {operand : Parser Expr} {first value : Expr}
    {further : Array (CompareOp × Expr)} {tokens rest : List Token}
    (h : comparisonsFrom operand first further tokens = .ok (value, rest)) :
    rest.length ≤ tokens.length := by
  fun_induction comparisonsFrom operand first further tokens with
  | case1 => cases h; omega
  | case2 => cases h
  | case3 further tokens op after sign right behind read ih =>
    have := comparisonSign?_length sign
    have := operand.shrinks read
    have := ih h
    omega

def comparison (inner : Nested → Parser Expr) : Parser Expr where
  run tokens :=
    match (additive inner).run tokens with
    | .error fault => .error fault
    | .ok (first, rest) => comparisonsFrom (additive inner) first #[] rest
  shrinks h := by
    split at h
    · cases h
    · rename_i read
      have := (additive inner).shrinks read
      have := comparisonsFrom_length h
      omega

def negatedRun (inner : Nested → Parser Expr) : List Token → Reading Expr
  | .keyword .not :: after => prefixedRun .not (inner .negated) after
  | tokens => (comparison inner).run tokens

def negated (inner : Nested → Parser Expr) : Parser Expr where
  run := negatedRun inner
  shrinks h := by
    unfold negatedRun at h
    split at h
    · have := prefixedRun_length h
      simp only [List.length_cons]; omega
    · exact (comparison inner).shrinks h

def disjunction (inner : Nested → Parser Expr) : Parser Expr :=
  chain orOperator (chain andOperator (negated inner))

/-- What begins a level of nesting, where `levels` of them are left, this one included. -/
def nested (levels : Nat) (kind : Nested) : Parser Expr :=
  match levels with
  | 0 => ⟨fun _ => .error .tooDeep, nofun⟩
  | levels + 1 =>
    match kind with
    | .expression => disjunction (nested levels)
    | .negated => negated (nested levels)
    | .signed => signed (nested levels)

/-- How many levels brackets and prefix signs can take, the outermost expression included. -/
def maxNesting : Nat := 100

/-- An expression that is not nested in another. -/
def expression : Parser Expr :=
  nested maxNesting .expression

end Parser

/-- The expression that the tokens spell; line ends may follow it. -/
def Expr.ofTokens (tokens : List Token) : Except SyntaxFault Expr :=
  match Parser.expression.run tokens with
  | .error fault => .error fault
  | .ok (value, rest) =>
    match rest.dropWhile (· = .newline) with
    | [] => .ok value
    | token :: _ => .error (.unexpected token)

/-- The target that an expression on the left of an assignment denotes. -/
def Expr.toTarget : Expr → Except SyntaxFault Target
  | .name word => .ok (.name word)
  | .index container position => .ok (.index container position)
  | _ => .error .notAssignable

namespace Parser

/-- The signs of assignment; a plain one combines nothing. -/
def assignmentSign? : Token → Option (Option BinaryOp)
  | .symbol .assign => some none
  | .symbol .plusAssign => some (some .add)
  | .symbol .minusAssign => some (some .sub)
  | .symbol .starAssign => some (some .mul)
  | .symbol .slashAssign => some (some .div)
  | _ => none

/-- The statement that assigns `value` to the target that `left` denotes. -/
def assign (op : Option BinaryOp) (target : Target) (value : Expr) : Statement :=
  match op with
  | none => .assign target value
  | some op => .augAssign op target value

/-- What follows `left`: the rest of an assignment to it, or nothing of the statement. -/
def assignmentFrom (left : Expr) : List Token → Reading Statement
  | [] => .ok (.expr left, [])
  | token :: after =>
    match assignmentSign? token with
    | none => .ok (.expr left, token :: after)
    | some op =>
      match left.toTarget with
      | .error fault => .error fault
      | .ok target =>
        match expression.run after with
        | .error fault => .error fault
        | .ok (value, rest) => .ok (assign op target value, rest)

theorem assignmentFrom_length {left : Expr} {tokens rest : List Token} {value : Statement}
    (h : assignmentFrom left tokens = .ok (value, rest)) : rest.length ≤ tokens.length := by
  unfold assignmentFrom at h
  split at h
  · cases h; omega
  split at h
  · cases h; omega
  split at h
  · cases h
  split at h <;> cases h
  rename_i read
  have := expression.shrinks read
  simp only [List.length_cons]; omega

def statementRun : List Token → Reading Statement
  | .keyword .pass :: rest => .ok (.pass, rest)
  | .keyword .del :: .name word :: rest => .ok (.delete word, rest)
  | .keyword .del :: _ => .error .nameExpected
  | tokens =>
    match expression.run tokens with
    | .error fault => .error fault
    | .ok (left, rest) => assignmentFrom left rest

def statement : Parser Statement where
  run := statementRun
  shrinks h := by
    unfold statementRun at h
    split at h
    · cases h; simp
    · cases h; simp only [List.length_cons]; omega
    · cases h
    split at h
    · cases h
    rename_i read
    have := expression.shrinks read
    have := assignmentFrom_length h
    omega

/-- The tokens that stand between statements. -/
def isSeparator (token : Token) : Bool :=
  token = .newline || token = .symbol .semicolon

/-- The statements of the tokens, behind those already read. -/
def statementsFrom (program : Array Statement) (tokens : List Token) :
    Except SyntaxFault (List Statement) :=
  match tokens with
  | [] => .ok program.toList
  | token :: after =>
    if isSeparator token then statementsFrom program after
    else
      match _read : statement.run (token :: after) with
      | .error fault => .error fault
      | .ok (value, []) => .ok (program.push value).toList
      | .ok (value, next :: rest) =>
        if isSeparator next then statementsFrom (program.push value) rest
        else .error (.unexpected next)
termination_by tokens.length
decreasing_by
  · simp
  · have := statement.shrinks ‹_›
    simp only [List.length_cons] at *; omega

end Parser

/-- The program that the tokens spell. -/
def Statement.ofTokens (tokens : List Token) : Except SyntaxFault (List Statement) :=
  Parser.statementsFrom #[] tokens

end Roundtable.Script
