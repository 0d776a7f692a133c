import CellArithmetic.Formula
import CellArithmetic.Text

/-! What a command notes down while it works, for those who ask for that much detail. -/
namespace CellArithmetic

namespace Journal

inductive Level where
  | off | error | warn | info | debug | trace
deriving DecidableEq, Repr

/-- All levels, in the order of their detail. -/
def Level.all : List Level := [off, error, warn, info, debug, trace]

def Level.name : Level → String
  | off => "off" | error => "error" | warn => "warn" | info => "info" | debug => "debug"
  | trace => "trace"

/-- The place in the order from no detail to all of it. -/
def Level.detail : Level → Nat
  | off => 0 | error => 1 | warn => 2 | info => 3 | debug => 4 | trace => 5

inductive Event where
  | token (lexeme : String) (place : Position)
  | accepted (canonical : String) (cells : Nat)
  | rejected (violation : Violation)
  | sheetEntry (cell canonical : String)
  | graphBuilt (cells edges : Nat)

namespace Event

def level : Event → Level
  | token .. => .trace
  | accepted .. | rejected _ | sheetEntry .. => .debug
  | graphBuilt .. => .info

/-- Which part of the program an event comes from: the cutting of texts into tokens, the
reading of formulas, or the command line. A topic begins with the topics that hold it. -/
def topic : Event → String
  | token .. => "formula_core::parser::tokenizer"
  | accepted .. | rejected _ => "formula_core"
  | sheetEntry .. | graphBuilt .. => "formula_cli"

/-- A message without the control characters that steer a terminal. -/
private def tame (c : Char) : String :=
  if c.toNat = 7 || c.toNat = 8 || c.toNat = 12 || c.toNat = 27 || c.toNat = 127 then
    "\\x" ++ Text.hex 2 c.toNat
  else if 128 ≤ c.toNat && c.toNat ≤ 159 then "\\u\x7b" ++ Text.hex 1 c.toNat ++ "\x7d"
  else String.singleton c

def message : Event → String
  | token .. => "token"
  | accepted .. => "formula accepted"
  | rejected violation => "formula rejected: " ++ String.join (violation.message.toList.map tame)
  | sheetEntry .. => "sheet entry"
  | graphBuilt .. => "dependency graph built"

/-- The named values of an event, in the order in which they are written. -/
def fields : Event → List (String × String)
  | token lexeme place => [("lexeme", lexeme), ("span", place.text)]
  | accepted canonical cells => [("canonical", canonical), ("variables", toString cells)]
  | rejected violation => [("kind", violation.kind.name), ("rule", violation.rule.text)]
  | sheetEntry cell canonical => [("cell", cell), ("formula", canonical)]
  | graphBuilt cells edges => [("cells", toString cells), ("edges", toString edges)]

def text (event : Event) : String :=
  event.level.name.map Char.toUpper ++ " " ++ event.message ++
    String.join (event.fields.map fun (name, value) => " " ++ name ++ "=" ++ value)

end Event

end Journal

/-- What reading a formula notes down: every token, then the verdict. -/
def Formula.events (text : String) : List Journal.Event :=
  (scan text).map (fun here => .token here.lexeme here.position) ++
    match ofText text with
    | .ok formula => [.accepted formula.text formula.cells.size]
    | .error violation => [.rejected violation]

end CellArithmetic
