import CellArithmetic.DependencyGraph
import CellArithmetic.Journal
import CellArithmetic.Text

/-! Sheets: lines of the form `CELL = formula`. Blank lines and lines that begin with
`#` say nothing. A sheet is read as a whole or refused for its first bad line. -/
namespace CellArithmetic

/-- The formulas of the cells, by canonical name. -/
abbrev Sheet := Std.ExtTreeMap String Formula

namespace Sheet

inductive Fault where
  | malformed (line : String)
  | invalidCell (name : String)
  | duplicate (cell : String)
  | invalidFormula (violation : Violation)

def Fault.message : Fault → String
  | malformed line => "expected `CELL = formula`, found " ++ Text.quoted line
  | invalidCell name => "invalid cell name '" ++ name ++ "'"
  | duplicate cell => "cell '" ++ cell ++ "' is already defined"
  | invalidFormula violation => violation.message

/-- A fault and the number of its line; lines count from one. -/
structure Refusal where
  line : Nat
  fault : Fault

def Refusal.message (refusal : Refusal) : String :=
  "line " ++ toString refusal.line ++ ": " ++ refusal.fault.message

/-- Whether a trimmed line defines a cell, or should. -/
def isRelevant (line : List Char) : Bool := !line.isEmpty && line.head? != some '#'

/-- The canonical cell and the text of the formula in a trimmed line. -/
def definition (line : List Char) : Except Fault (String × String) :=
  match line.dropWhile (· != '=') with
  | [] => .error (.malformed (String.ofList line))
  | _ :: body =>
    let name := String.ofList (Text.trim (line.takeWhile (· != '=')))
    match CellName.canonical? name with
    | none => .error (.invalidCell name)
    | some cell => .ok (cell, String.ofList body)

/-- Reads lines into a sheet, the first of them with the given number, and notes down the
work up to the first refusal. -/
def readLines (sheet : Sheet) (number : Nat) :
    List (List Char) → List Journal.Event × Except Refusal Sheet
  | [] => ([], .ok sheet)
  | raw :: rest =>
    let line := Text.trim raw
    if isRelevant line then
      match definition line with
      | .error fault => ([], .error ⟨number, fault⟩)
      | .ok (cell, body) =>
        if sheet.contains cell then ([], .error ⟨number, .duplicate cell⟩)
        else
          match Formula.ofText body with
          | .error violation => (Formula.events body, .error ⟨number, .invalidFormula violation⟩)
          | .ok formula =>
            let (events, result) := readLines (sheet.insert cell formula) (number + 1) rest
            (Formula.events body ++ .sheetEntry cell formula.text :: events, result)
    else readLines sheet (number + 1) rest

def read (text : String) : List Journal.Event × Except Refusal Sheet :=
  readLines ∅ 1 (Text.pieces '\n' text.toList)

/-- Which cells depend on which, from the formulas of all cells in order. -/
def graph (sheet : Sheet) : DependencyGraph :=
  sheet.toList.foldl (fun graph (cell, formula) => graph.addFormula cell formula) .empty

end CellArithmetic.Sheet
