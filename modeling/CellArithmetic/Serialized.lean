import CellArithmetic.Formula
import CellArithmetic.Json

/-! Serialized forms. A formula is its canonical text, and reading one checks it again;
a symbol is tagged with its kind; an operator, a rule and a kind of violation are their
names. -/
namespace CellArithmetic

def Operator.toJson (op : Operator) : Json := .string op.name

def Operator.ofJson? : Json → Option Operator := Json.choice? Operator.name Operator.all

def Rule.ofJson? : Json → Option Rule := Json.choice? Rule.name Rule.all

def Violation.Kind.ofJson? : Json → Option Violation.Kind := Json.choice? Kind.name Kind.all

namespace Symbol

/-- A symbol without its text. -/
inductive Kind where
  | number | cell | operator | leftParen | rightParen
deriving DecidableEq, Repr

def Kind.all : List Kind := [number, cell, operator, leftParen, rightParen]

def Kind.name : Kind → String
  | number => "Number" | cell => "Variable" | operator => "Operator"
  | leftParen => "LeftParen" | rightParen => "RightParen"

def kind : Symbol → Kind
  | number _ => .number
  | cell _ => .cell
  | operator _ => .operator
  | leftParen => .leftParen
  | rightParen => .rightParen

/-- The text beside the kind; parentheses have none. -/
def content? : Symbol → Option Json
  | number text => some (.string text)
  | cell name => some (.string name)
  | operator op => some op.toJson
  | leftParen | rightParen => none

def toJson (symbol : Symbol) : Json :=
  .object (("kind", .string symbol.kind.name) :: (symbol.content?.map (("text", ·))).toList)

/-- The symbol of a kind with a text; the text of a parenthesis may only be nothing. -/
def ofParts? (kind : Kind) (text : Option Json) : Option Symbol :=
  match kind, text with
  | .number, some (.string text) => some (number text)
  | .cell, some (.string name) => some (cell name)
  | .operator, some op => (Operator.ofJson? op).map operator
  | .leftParen, none | .leftParen, some .null => some leftParen
  | .rightParen, none | .rightParen, some .null => some rightParen
  | _, _ => none

private def kind? : Json → Option Kind := Json.choice? Kind.name Kind.all

/-- Reads a tagged object, whatever the order of its fields and whatever else it holds,
or a pair of kind and text. In a pair the kind is always a plain name. -/
def ofJson? : Json → Option Symbol
  | .object fields =>
    ((Json.field? "kind" fields).bind kind?).bind fun kind => ofParts? kind (Json.field? "text" fields)
  | .array [.string name, text] => (kind? (.string name)).bind fun kind => ofParts? kind (some text)
  | _ => none

end Symbol

namespace Formula

def toJson (formula : Formula) : Json := .string formula.text

/-- Reads a formula from a string; a violation is reported only for one. -/
def ofJson : Json → Except (Option Violation) Formula
  | .string text => (ofText text).mapError some
  | _ => .error none

end CellArithmetic.Formula
