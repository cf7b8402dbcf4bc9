import Roundtable.Script.Program.Parser
/-!
The grammar of expressions, one rule for each way in which a phrase is put together, and the tree
that every rule builds. A derivation counts levels: an expression takes one, at the top, between
brackets, as an argument or as a list item, and so does the operand of a prefix operator and the
exponent of a power. Nothing else does.
-/

namespace Roundtable.Script

open Roundtable.Script.Parser (Nested)

/-- The kinds of phrase, from loosest to tightest. -/
inductive Phrase where
  /-- What takes a level of its own. -/
  | nested (kind : Nested)
  | disjunction
  | conjunction
  | negation
  | comparison
  /-- An operand and any number of further ones, each behind a comparison sign. -/
  | compared
  | sum
  | term
  | signed
  | power
  | postfixed
  | atom
  /-- The arguments of a call, or the items of a list. -/
  | items
  deriving DecidableEq

/-- What a phrase denotes: an expression, except for the two kinds that are only part of one. -/
@[reducible]
def Phrase.Value : Phrase → Type
  | .compared => Expr × List (CompareOp × Expr)
  | .items => List Expr
  | _ => Expr

/-- An expression that is not part of a tighter phrase. -/
abbrev Phrase.expression : Phrase := .nested .expression

def BinaryOp.sign : BinaryOp → Symbol
  | .add => .plus
  | .sub => .minus
  | .mul => .star
  | .div => .slash
  | .floorDiv => .doubleSlash
  | .mod => .percent
  | .pow => .doubleStar

def UnaryOp.sign : UnaryOp → Token
  | .neg => .symbol .minus
  | .pos => .symbol .plus
  | .not => .keyword .not

def CompareOp.signs : CompareOp → List Token
  | .eq => [.symbol .equal]
  | .ne => [.symbol .notEqual]
  | .lt => [.symbol .less]
  | .le => [.symbol .lessEqual]
  | .gt => [.symbol .greater]
  | .ge => [.symbol .greaterEqual]
  | .in => [.keyword .in]
  | .notIn => [.keyword .not, .keyword .in]

/-- Tokens that are expressions by themselves. -/
inductive Literal : Token → Expr → Prop where
  | int (value : Int64) : Literal (.int value) (.int value)
  | float (value : Float) : Literal (.float value) (.float value)
  | str (text : String) : Literal (.str text) (.str text)
  | name (word : String) : Literal (.name word) (.name word)
  | true : Literal (.keyword .true) (.bool Bool.true)
  | false : Literal (.keyword .false) (.bool Bool.false)
  | none : Literal (.keyword .none) .none

/-- A comparison without further operands is its first operand. -/
def Expr.compared (first : Expr) (rest : List (CompareOp × Expr)) : Expr :=
  if rest.isEmpty then first else .compare first rest

/-- The tokens spell a phrase with this value, by a derivation of at most so many levels. -/
inductive Derives : (levels : Nat) → (phrase : Phrase) → List Token → phrase.Value → Prop where
  | expression {n w e} : Derives n .disjunction w e → Derives (n + 1) (.nested .expression) w e
  | negated {n w e} : Derives n .negation w e → Derives (n + 1) (.nested .negated) w e
  | signed {n w e} : Derives n .signed w e → Derives (n + 1) (.nested .signed) w e
  | conjunction {n w e} : Derives n .conjunction w e → Derives n .disjunction w e
  | or {n w v a b} : Derives n .disjunction w a → Derives n .conjunction v b →
      Derives n .disjunction (w ++ .keyword .or :: v) (.logical .or a b)
  | negation {n w e} : Derives n .negation w e → Derives n .conjunction w e
  | and {n w v a b} : Derives n .conjunction w a → Derives n .negation v b →
      Derives n .conjunction (w ++ .keyword .and :: v) (.logical .and a b)
  | comparison {n w e} : Derives n .comparison w e → Derives n .negation w e
  | not {n w e} : Derives n (.nested .negated) w e →
      Derives n .negation (.keyword .not :: w) (.unary .not e)
  | compared {n w} {first : Expr} {rest : List (CompareOp × Expr)} :
      Derives n .compared w (first, rest) → Derives n .comparison w (first.compared rest)
  | first {n w e} : Derives n .sum w e → Derives n .compared w (e, [])
  | further {n w v first rest op e} : Derives n .compared w (first, rest) → Derives n .sum v e →
      Derives n .compared (w ++ CompareOp.signs op ++ v) (first, rest ++ [(op, e)])
  | term {n w e} : Derives n .term w e → Derives n .sum w e
  | sum {n w v a b op} : op ∈ [BinaryOp.add, .sub] → Derives n .sum w a → Derives n .term v b →
      Derives n .sum (w ++ .symbol op.sign :: v) (.binary op a b)
  | unary {n w e} : Derives n .signed w e → Derives n .term w e
  | product {n w v a b op} : op ∈ [BinaryOp.mul, .div, .floorDiv, .mod] → Derives n .term w a →
      Derives n .signed v b → Derives n .term (w ++ .symbol op.sign :: v) (.binary op a b)
  | power {n w e} : Derives n .power w e → Derives n .signed w e
  | sign {n w e op} : op ∈ [UnaryOp.neg, .pos] → Derives n (.nested .signed) w e →
      Derives n .signed (UnaryOp.sign op :: w) (.unary op e)
  | postfixed {n w e} : Derives n .postfixed w e → Derives n .power w e
  | pow {n w v a b} : Derives n .postfixed w a → Derives n (.nested .signed) v b →
      Derives n .power (w ++ .symbol .doubleStar :: v) (.binary .pow a b)
  | atom {n w e} : Derives n .atom w e → Derives n .postfixed w e
  | call {n w v f arguments} : Derives n .postfixed w f → Derives n .items v arguments →
      Derives n .postfixed (w ++ .symbol .leftParen :: v ++ [.symbol .rightParen])
        (.call f arguments)
  | index {n w v c i} : Derives n .postfixed w c → Derives n .expression v i →
      Derives n .postfixed (w ++ .symbol .leftBracket :: v ++ [.symbol .rightBracket]) (.index c i)
  | member {n w e word} : Derives n .postfixed w e →
      Derives n .postfixed (w ++ [.symbol .dot, .name word]) (.attribute e word)
  | literal {n token e} : Literal token e → Derives n .atom [token] e
  | parentheses {n w e} : Derives n .expression w e →
      Derives n .atom (.symbol .leftParen :: w ++ [.symbol .rightParen]) e
  | list {n w es} : Derives n .items w es →
      Derives n .atom (.symbol .leftBracket :: w ++ [.symbol .rightBracket]) (.list es)
  | noItems {n} : Derives n .items [] []
  | lastItem {n w e} : Derives n .expression w e → Derives n .items w [e]
  | item {n w v e es} : Derives n .expression w e → Derives n .items v es →
      Derives n .items (w ++ .symbol .comma :: v) (e :: es)

/-- How far a token can stand at the head of a phrase: 3 before any, 2 before a signed operand and
all that is looser, 1 before a negation and all that is looser, 0 before none. -/
def Token.opening : Token → Nat
  | .int _ | .float _ | .str _ | .name _ => 3
  | .keyword .true | .keyword .false | .keyword .none => 3
  | .symbol .leftParen | .symbol .leftBracket => 3
  | .symbol .plus | .symbol .minus => 2
  | .keyword .not => 1
  | _ => 0

/-- What the token at the head of a phrase has to open at least. -/
def Phrase.opening : Phrase → Nat
  | .atom | .postfixed | .power => 3
  | .nested .signed | .signed | .term | .sum | .compared | .comparison => 2
  | _ => 1

/-- The tokens begin with one that opens so much. -/
def Opens (bound : Nat) (tokens : List Token) : Prop :=
  ∃ token after, tokens = token :: after ∧ bound ≤ token.opening

theorem Opens.mono {bound looser : Nat} {tokens : List Token} (h : Opens bound tokens)
    (hle : looser ≤ bound) : Opens looser tokens := by
  obtain ⟨token, after, htokens, hopening⟩ := h
  exact ⟨token, after, htokens, Nat.le_trans hle hopening⟩

theorem Opens.append {bound : Nat} {tokens : List Token} (h : Opens bound tokens)
    (rest : List Token) : Opens bound (tokens ++ rest) := by
  obtain ⟨token, after, htokens, hopening⟩ := h
  exact ⟨token, after ++ rest, by rw [htokens, List.cons_append], hopening⟩

theorem UnaryOp.opening_sign {op : UnaryOp} (h : op ∈ [UnaryOp.neg, .pos]) :
    2 ≤ op.sign.opening := by
  cases op with
  | neg => decide
  | pos => decide
  | not => exact absurd h (by decide)

/-- Every phrase but an empty list of items begins with a token that opens it. -/
theorem Derives.opens {n : Nat} {phrase : Phrase} {w : List Token} {value : phrase.Value}
    (h : Derives n phrase w value) (hphrase : phrase ≠ .items) : Opens phrase.opening w := by
  induction h with
  | literal hliteral => cases hliteral <;> exact ⟨_, _, rfl, Nat.le_refl 3⟩
  | parentheses => exact ⟨_, _, rfl, by decide⟩
  | list => exact ⟨_, _, rfl, by decide⟩
  | sign hop => exact ⟨_, _, rfl, UnaryOp.opening_sign hop⟩
  | not => exact ⟨_, _, rfl, by decide⟩
  | noItems | lastItem | item => exact absurd rfl hphrase
  | or _ _ ih | and _ _ ih | pow _ _ ih => exact (ih (by decide)).append _
  | sum _ _ _ ih | product _ _ _ ih => exact (ih (by decide)).append _
  | further _ _ ih | call _ _ ih | index _ _ ih => exact ((ih (by decide)).append _).append _
  | member _ ih => exact (ih (by decide)).append _
  | expression _ ih | negated _ ih | signed _ ih | conjunction _ ih | negation _ ih
  | comparison _ ih | compared _ ih | first _ ih | term _ ih | unary _ ih | power _ ih
  | postfixed _ ih | atom _ ih => exact (ih (by decide)).mono (by decide)

/-- What binds as tightly as an operand with its sign is an expression of one more level. -/
theorem Derives.expression_of_signed {n : Nat} {w : List Token} {e : Expr}
    (h : Derives n .signed w e) : Derives (n + 1) .expression w e :=
  .expression (.conjunction (.negation (.comparison (.compared (.first (.term (.unary h)))))))

theorem Derives.expression_of_atom {n : Nat} {w : List Token} {e : Expr}
    (h : Derives n .atom w e) : Derives (n + 1) .expression w e :=
  .expression_of_signed (.power (.postfixed (.atom h)))

end Roundtable.Script
