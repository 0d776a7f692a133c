import CellArithmetic.Journal.Filter
import CellArithmetic.Json

/-! Where commands write. Output goes to one stream, and to none in a quiet run; the log and what
is wrong go to another. Every line is written where it arises, and it is there that a quiet run
differs from any other. -/
namespace CellArithmetic.Report

/-- What has been written so far. -/
structure Streams where
  stdout : String
  stderr : String

/-- Writes a line of output in any case. -/
def print (text : String) : StateM Streams Unit :=
  modify fun streams => { streams with stdout := streams.stdout ++ text ++ "\n" }

def printError (text : String) : StateM Streams Unit :=
  modify fun streams => { streams with stderr := streams.stderr ++ text ++ "\n" }

/-- Marks a text by a terminal's display attributes. -/
def paint (color : Bool) (attributes text : String) : String :=
  if color then "\x1b[" ++ attributes ++ "m" ++ text ++ "\x1b[0m" else text

def red : String := "31"
def green : String := "32"
def boldRed : String := "1;31"
def boldGreen : String := "1;32"
def bold : String := "1"
def dimmed : String := "2"

/-- How a run writes. -/
structure Console where
  quiet : Bool
  /-- Whether texts are colored. -/
  color : Bool
  log : Journal.Filter
  /-- The level up to which events are shown if the log setting asks for none. -/
  usual : Journal.Level

namespace Console

def line (console : Console) (text : String) : StateM Streams Unit :=
  unless console.quiet do print text

def json (console : Console) (value : Json) : StateM Streams Unit :=
  unless console.quiet do print value.text

/-- The lines of the events that are asked for. -/
def shown (console : Console) (events : List Journal.Event) : List String :=
  console.log.lines console.usual events

def note (console : Console) (events : List Journal.Event) : StateM Streams Unit :=
  (console.shown events).forM printError

/-- The line that tells what is wrong. -/
def complaint (console : Console) (message : String) : String :=
  paint console.color boldRed "error:" ++ " " ++ message

/-- Tells what is wrong, also in a quiet run. -/
def complain (console : Console) (message : String) : StateM Streams Unit :=
  printError (console.complaint message)

/-- Reads a formula, and notes it down. -/
def readFormula (console : Console) (text : String) : StateM Streams (Except Violation Formula) := do
  console.note (Formula.events text)
  return Formula.ofText text

end CellArithmetic.Report.Console
