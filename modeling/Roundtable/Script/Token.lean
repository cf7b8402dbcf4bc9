import Roundtable.Number.FloatText
import Roundtable.Text.Escaped
/-!
The tokens of a script. Words that the language reserves are apart from names, and every fixed
sign is a `Symbol` with one spelling. A line end is a token of its own, since it ends a statement.
-/

namespace Roundtable.Script

inductive Keyword where
  | and | or | not | in | true | false | none | del | pass
  deriving DecidableEq, Repr

def Keyword.word : Keyword → String
  | .and => "and"
  | .or => "or"
  | .not => "not"
  | .in => "in"
  | .true => "True"
  | .false => "False"
  | .none => "None"
  | .del => "del"
  | .pass => "pass"

def Keyword.all : List Keyword :=
  [.and, .or, .not, .in, .true, .false, .none, .del, .pass]

/-- The reserved word spelled `word`, if it is one. -/
def Keyword.ofWord? (word : String) : Option Keyword :=
  Keyword.all.find? (·.word = word)

inductive Symbol where
  | plus | minus | star | doubleStar | slash | doubleSlash | percent
  | assign | plusAssign | minusAssign | starAssign | slashAssign
  | equal | notEqual | less | lessEqual | greater | greaterEqual
  | leftParen | rightParen | leftBracket | rightBracket
  | comma | dot | semicolon
  deriving DecidableEq, Repr

def Symbol.text : Symbol → String
  | .plus => "+"
  | .minus => "-"
  | .star => "*"
  | .doubleStar => "**"
  | .slash => "/"
  | .doubleSlash => "//"
  | .percent => "%"
  | .assign => "="
  | .plusAssign => "+="
  | .minusAssign => "-="
  | .starAssign => "*="
  | .slashAssign => "/="
  | .equal => "=="
  | .notEqual => "!="
  | .less => "<"
  | .lessEqual => "<="
  | .greater => ">"
  | .greaterEqual => ">="
  | .leftParen => "("
  | .rightParen => ")"
  | .leftBracket => "["
  | .rightBracket => "]"
  | .comma => ","
  | .dot => "."
  | .semicolon => ";"

inductive Token where
  | int (value : Int64)
  | float (value : Float)
  | str (text : String)
  | name (name : String)
  | keyword (keyword : Keyword)
  | symbol (symbol : Symbol)
  | newline
  deriving DecidableEq

/-- A token as an error message shows it. -/
def Token.display : Token → String
  | .int value => toString value
  | .float value => Number.FloatFormat.token.render value
  | .str text => Text.escaped text
  | .name word => word
  | .keyword reserved => reserved.word
  | .symbol sign => sign.text
  | .newline => "newline"

end Roundtable.Script
