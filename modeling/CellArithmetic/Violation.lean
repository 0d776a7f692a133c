import CellArithmetic.Position

/-! The rules that a sequence of tokens has to keep to be a formula, and the ways to
break them. A violation holds what was found; its wording is in one place. -/
namespace CellArithmetic

inductive Rule where
  | nonEmpty | firstToken | lastToken | validToken | closingParenthesis | balancedParentheses
  | openOrOperatorFollowing | valueOrCloseFollowing
deriving DecidableEq, Repr

namespace Rule

def all : List Rule :=
  [nonEmpty, firstToken, lastToken, validToken, closingParenthesis, balancedParentheses,
    openOrOperatorFollowing, valueOrCloseFollowing]

def number : Rule → Nat
  | nonEmpty => 1 | firstToken => 2 | lastToken => 3 | validToken => 4
  | closingParenthesis => 5 | balancedParentheses => 6
  | openOrOperatorFollowing => 7 | valueOrCloseFollowing => 8

def title : Rule → String
  | nonEmpty => "non-empty" | firstToken => "first token" | lastToken => "last token"
  | validToken => "valid token" | closingParenthesis => "closing parenthesis"
  | balancedParentheses => "balanced parentheses"
  | openOrOperatorFollowing => "open/operator following"
  | valueOrCloseFollowing => "value/close following"

def name : Rule → String
  | nonEmpty => "NonEmpty" | firstToken => "FirstToken" | lastToken => "LastToken"
  | validToken => "ValidToken" | closingParenthesis => "ClosingParenthesis"
  | balancedParentheses => "BalancedParentheses"
  | openOrOperatorFollowing => "OpenOrOperatorFollowing"
  | valueOrCloseFollowing => "ValueOrCloseFollowing"

def text (rule : Rule) : String := "rule #" ++ toString rule.number ++ " (" ++ rule.title ++ ")"

end Rule

inductive Violation where
  | empty
  | invalidFirst (lexeme : String) (place : Position)
  | invalidLast (lexeme : String) (place : Position)
  | invalidToken (lexeme : String) (place : Position)
  | outOfRange (lexeme : String) (place : Position)
  | unmatchedClose (place : Position)
  | unbalanced (opened closed : Nat)
  | afterOpenOrOperator (previous lexeme : String) (place : Position)
  | afterValueOrClose (previous lexeme : String) (place : Position)
deriving DecidableEq, Repr

namespace Violation

/-- A violation without what was found. -/
inductive Kind where
  | emptyFormula | invalidFirstToken | invalidLastToken | invalidToken | numberOutOfRange
  | unbalancedClosingParenthesis | unbalancedParentheses
  | invalidTokenAfterOpenOrOperator | invalidTokenAfterValueOrClose
deriving DecidableEq, Repr

def Kind.all : List Kind :=
  [emptyFormula, invalidFirstToken, invalidLastToken, invalidToken, numberOutOfRange,
    unbalancedClosingParenthesis, unbalancedParentheses,
    invalidTokenAfterOpenOrOperator, invalidTokenAfterValueOrClose]

def Kind.name : Kind → String
  | emptyFormula => "EmptyFormula"
  | invalidFirstToken => "InvalidFirstToken"
  | invalidLastToken => "InvalidLastToken"
  | invalidToken => "InvalidToken"
  | numberOutOfRange => "NumberOutOfRange"
  | unbalancedClosingParenthesis => "UnbalancedClosingParenthesis"
  | unbalancedParentheses => "UnbalancedParentheses"
  | invalidTokenAfterOpenOrOperator => "InvalidTokenAfterOpenOrOperator"
  | invalidTokenAfterValueOrClose => "InvalidTokenAfterValueOrClose"

def kind : Violation → Kind
  | empty => .emptyFormula
  | invalidFirst .. => .invalidFirstToken
  | invalidLast .. => .invalidLastToken
  | invalidToken .. => .invalidToken
  | outOfRange .. => .numberOutOfRange
  | unmatchedClose _ => .unbalancedClosingParenthesis
  | unbalanced .. => .unbalancedParentheses
  | afterOpenOrOperator .. => .invalidTokenAfterOpenOrOperator
  | afterValueOrClose .. => .invalidTokenAfterValueOrClose

def rule : Violation → Rule
  | empty => .nonEmpty
  | invalidFirst .. => .firstToken
  | invalidLast .. => .lastToken
  | invalidToken .. | outOfRange .. => .validToken
  | unmatchedClose _ => .closingParenthesis
  | unbalanced .. => .balancedParentheses
  | afterOpenOrOperator .. => .openOrOperatorFollowing
  | afterValueOrClose .. => .valueOrCloseFollowing

/-- Where the token at fault begins, if a single token is at fault. -/
def position : Violation → Option Position
  | empty | unbalanced .. => none
  | invalidFirst _ place | invalidLast _ place | invalidToken _ place | outOfRange _ place
  | unmatchedClose place | afterOpenOrOperator _ _ place | afterValueOrClose _ _ place => some place

/-- The written token at fault, where the violation keeps it. -/
def lexeme : Violation → Option String
  | empty | unmatchedClose _ | unbalanced .. => none
  | invalidFirst lexeme _ | invalidLast lexeme _ | invalidToken lexeme _ | outOfRange lexeme _
  | afterOpenOrOperator _ lexeme _ | afterValueOrClose _ lexeme _ => some lexeme

/-- The written token before the one at fault, where the two do not fit together. -/
def previous : Violation → Option String
  | afterOpenOrOperator previous _ _ | afterValueOrClose previous _ _ => some previous
  | _ => none

private def quotedAt (lexeme : String) (place : Position) : String :=
  "'" ++ lexeme ++ "' at " ++ place.text

def message : Violation → String
  | empty => "formula must contain at least one token"
  | invalidFirst lexeme place =>
    "invalid first token " ++ quotedAt lexeme place ++ ": expected a number, variable or '('"
  | invalidLast lexeme place =>
    "invalid last token " ++ quotedAt lexeme place ++ ": expected a number, variable or ')'"
  | invalidToken lexeme place => "invalid token " ++ quotedAt lexeme place
  | outOfRange lexeme place => "number " ++ quotedAt lexeme place ++ " is out of range"
  | unmatchedClose place => "closing parenthesis at " ++ place.text ++ " has no matching '('"
  | unbalanced opened closed =>
    "unbalanced parentheses: " ++ toString opened ++ " '(' but " ++ toString closed ++ " ')'"
  | afterOpenOrOperator previous lexeme place =>
    "invalid token " ++ quotedAt lexeme place ++ " after '" ++ previous ++
      "': expected a number, variable or '('"
  | afterValueOrClose previous lexeme place =>
    "invalid token " ++ quotedAt lexeme place ++ " after '" ++ previous ++
      "': expected an operator or ')'"

end CellArithmetic.Violation
