import CellArithmetic.Binary64
import CellArithmetic.Position

/-! The tokens of a formula, and their occurrences in a text. -/
namespace CellArithmetic

inductive Operator where
  | plus | minus | star | slash
deriving DecidableEq, Repr

namespace Operator

def all : List Operator := [plus, minus, star, slash]

def char : Operator → Char
  | plus => '+' | minus => '-' | star => '*' | slash => '/'

def ofChar? : Char → Option Operator
  | '+' => some plus | '-' => some minus | '*' => some star | '/' => some slash
  | _ => none

def text (op : Operator) : String := String.singleton op.char

def name : Operator → String
  | plus => "Plus" | minus => "Minus" | star => "Star" | slash => "Slash"

theorem ofChar?_eq_some_iff : ofChar? c = some op ↔ c = op.char := by
  constructor
  · intro found
    unfold ofChar? at found
    split at found <;> simp_all <;> subst found <;> rfl
  · rintro rfl
    cases op <;> rfl

end Operator

inductive Token where
  | number (value : Binary64)
  | cell (name : String)
  | operator (op : Operator)
  | leftParen
  | rightParen
  | unrecognized (text : String)
deriving DecidableEq, Repr

namespace Token

def isValue : Token → Bool
  | number _ | cell _ => true
  | _ => false

def isOperator : Token → Bool
  | operator _ => true
  | _ => false

def isUnrecognized : Token → Bool
  | unrecognized _ => true
  | _ => false

/-- Whether a formula, or a part of it in parentheses, may begin with the token. -/
def canStart (token : Token) : Bool := token.isValue || token == leftParen

/-- Whether a formula, or a part of it in parentheses, may end with the token. -/
def canEnd (token : Token) : Bool := token.isValue || token == rightParen

end Token

/-- A token, the text it is written as, and the place where that text begins. -/
structure Occurrence where
  token : Token
  lexeme : String
  position : Position
deriving DecidableEq, Repr

end CellArithmetic
