import CellArithmetic.Command.Console
import CellArithmetic.Command.Request
import CellArithmetic.Sheet

/-! What commands do: they write to the streams of a run and end with an exit code. -/
namespace CellArithmetic

/-- What a command writes, and the exit code it ends with. -/
abbrev Report := StateM Report.Streams Nat

namespace Report

def success : Nat := 0

/-- The code of a formula that is invalid, and of formulas that differ. -/
def negative : Nat := 1

/-- The code of a command that could not be carried out. -/
def failure : Nat := 2

/-- Why the content of a file cannot be had. -/
inductive ReadFailure where
  | notFound
  | isDirectory
  | notText
  | other (reason : String)

def ReadFailure.message : ReadFailure → String
  | notFound => "No such file or directory (os error 2)"
  | isDirectory => "Is a directory (os error 21)"
  | notText => "stream did not contain valid UTF-8"
  | other reason => reason

abbrev Files := String → Except ReadFailure ByteArray

structure Environment where
  files : Files
  /-- Whether output may be colored. -/
  color : Bool
  /-- Which events are asked for from outside. -/
  log : Journal.Filter

def Environment.console (environment : Environment) (options : Options) : Console where
  quiet := options.quiet
  color := environment.color && !options.plain
  log := environment.log
  usual := if options.verbose then .debug else .warn

def readSheet (files : Files) (path : String) : Except ReadFailure String :=
  match files path with
  | .error reason => .error reason
  | .ok bytes =>
    match String.fromUTF8? bytes with
    | some text => .ok text
    | none => .error .notText

/-- Reports on a valid formula; an invalid one is a failure. -/
def onFormula (console : Console) (text : String) (report : Formula → Report) : Report := do
  match ← console.readFormula text with
  | .ok formula => report formula
  | .error violation =>
    console.complain violation.message
    return failure

def verdict : Except Violation Formula → Json
  | .ok formula =>
    .object [("canonical", .string formula.text), ("error", .null), ("valid", .bool true),
      ("variables", .names formula.cells.toList)]
  | .error violation =>
    .object [("canonical", .null),
      ("error", .object [("kind", .string violation.kind.name), ("message", .string violation.message),
        ("rule", .nat violation.rule.number)]),
      ("valid", .bool false), ("variables", .array [])]

def validate (console : Console) (text : String) (json : Bool) : Report := do
  let result ← console.readFormula text
  if json then
    console.json (verdict result)
    return if result.isOk then success else negative
  else
    match result with
    | .ok formula =>
      unless console.quiet do print (paint console.color boldGreen "valid:" ++ " " ++ formula.text)
      return success
    | .error violation =>
      console.complain (violation.message ++ " [" ++ violation.rule.text ++ "]")
      return negative

/-- Both formulas are read before the first violation is reported. -/
def diff (console : Console) (left right : String) : Report := do
  let first ← console.readFormula left
  let second ← console.readFormula right
  match first, second with
  | .ok f, .ok g =>
    if f == g then
      console.line (paint console.color boldGreen "equal:" ++ " " ++ f.text)
      return success
    else
      console.line (paint console.color red "-" ++ " " ++ f.text)
      console.line (paint console.color green "+" ++ " " ++ g.text)
      return negative
  | .error violation, _ | _, .error violation =>
    console.complain violation.message
    return failure

def dependencyLine (color : Bool) (graph : DependencyGraph) (cell : String) : String :=
  let names := (graph.dependeesOf cell).toList
  paint color bold cell ++ " <- " ++
    if names.isEmpty then paint color dimmed "(none)" else ", ".intercalate names

def dependencies (graph : DependencyGraph) (cells : List String) : Json :=
  .object [("cells", .object (cells.map fun cell => (cell, .names (graph.dependeesOf cell).toList))),
    ("size", .nat graph.size)]

def tellDependencies (console : Console) (graph : DependencyGraph) (cells : List String) (json : Bool) :
    StateM Streams Unit :=
  if json then console.json (dependencies graph cells)
  else cells.forM fun cell => console.line (dependencyLine console.color graph cell)

def deps (console : Console) (files : Files) (path : String) (json : Bool) : Report := do
  match readSheet files path with
  | .error reason =>
    console.complain ("cannot read " ++ path ++ ": " ++ reason.message)
    return failure
  | .ok text =>
    let (events, result) := Sheet.read text
    console.note events
    match result with
    | .error refusal =>
      console.complain refusal.message
      return failure
    | .ok sheet =>
      let graph := Sheet.graph sheet
      console.note [.graphBuilt sheet.size graph.size]
      tellDependencies console graph sheet.keys json
      return success

def tellNames (console : Console) (names : List String) (json : Bool) : StateM Streams Unit :=
  if json then console.json (.object [("variables", .names names)]) else names.forM console.line

def release : String := "0.1.0"

def ofCommand (console : Console) (files : Files) : Command → Report
  | .validate text json => validate console text json
  | .normalize text => onFormula console text fun formula => do
    console.line formula.text
    return success
  | .cells text json => onFormula console text fun formula => do
    tellNames console formula.cells.toList json
    return success
  | .hash text => onFormula console text fun formula => do
    console.line formula.digest
    return success
  | .diff left right => diff console left right
  | .deps path json => deps console files path json
  -- The version is told even when the run is asked to be quiet.
  | .version => do
    print ("formula " ++ release ++ " (formula-core " ++ release ++ ")")
    return success

/-- Carries out a command, after telling what is wrong with the log setting. -/
def ofRun (environment : Environment) (options : Options) (command : Command) : Report := do
  environment.log.complaints.forM printError
  ofCommand (environment.console options) environment.files command

end Report

/-- What a run leaves behind. -/
structure Outcome where
  code : Nat
  stdout : String
  stderr : String
deriving DecidableEq, Repr

namespace Outcome

def ofReport (report : Report) : Outcome :=
  let (code, streams) := report.run ⟨"", ""⟩
  ⟨code, streams.stdout, streams.stderr⟩

def ofCommand (environment : Report.Environment) (options : Options) (command : Command) : Outcome :=
  ofReport (Report.ofRun environment options command)

def usage : String :=
  "Usage: formula [-q] [-v] [--no-color] <" ++ "|".intercalate Request.commands ++ "> ..."

def ofRequest (environment : Report.Environment) : Request → Outcome
  | .run options command => ofCommand environment options command
  | .banner => ⟨Report.success, "formula " ++ Report.release ++ "\n", ""⟩
  | .help => ⟨Report.success, usage ++ "\n", ""⟩
  | .misuse => ⟨Report.failure, "", usage ++ "\n"⟩

end CellArithmetic.Outcome
