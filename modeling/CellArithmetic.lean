import CellArithmetic.Text
import CellArithmetic.Position
import CellArithmetic.Binary64
import CellArithmetic.Binary64.Rounding
import CellArithmetic.Binary64.Shortest
import CellArithmetic.Literal
import CellArithmetic.CellName
import CellArithmetic.Token
import CellArithmetic.Token.Scan
import CellArithmetic.Violation
import CellArithmetic.Formula
import CellArithmetic.Names
import CellArithmetic.DependencyGraph
import CellArithmetic.Sha256
import CellArithmetic.Serialized
import CellArithmetic.Sheet
import CellArithmetic.Command.Request
import CellArithmetic.Command.Console
import CellArithmetic.Command.Report
import CellArithmetic.Main
import CellArithmetic.Journal.Filter
import CellArithmetic.Proofs.Streams
import CellArithmetic.Proofs.Grammar
import CellArithmetic.Proofs.Acceptance
import CellArithmetic.Proofs.Spelling
import CellArithmetic.Proofs.ScanTrace
import CellArithmetic.Proofs.Layout
import CellArithmetic.Proofs.Magnitude
import CellArithmetic.Proofs.Rounding
import CellArithmetic.Proofs.Digits
import CellArithmetic.Proofs.Decimal
import CellArithmetic.Proofs.Printing
import CellArithmetic.Proofs.CanonicalName
import CellArithmetic.Proofs.TextGrammar
import CellArithmetic.Proofs.Canonical
import CellArithmetic.Proofs.FirstViolation
import CellArithmetic.Proofs.GraphPairs
import CellArithmetic.Proofs.GraphHistory
import CellArithmetic.Proofs.Respacing
import CellArithmetic.Proofs.Viability
import CellArithmetic.Proofs.DependencyReport
import CellArithmetic.Proofs.SheetLines
import CellArithmetic.Proofs.SheetMeaning
import CellArithmetic.Proofs.Runs
import CellArithmetic.Proofs.Places
import CellArithmetic.Proofs.Extent
import CellArithmetic.Proofs.Separation
import CellArithmetic.Proofs.Composition
import CellArithmetic.Proofs.Diagnosis
import CellArithmetic.Proofs.Parentheses
import CellArithmetic.Proofs.CanonicalNumber
import CellArithmetic.Proofs.LetterCase
import CellArithmetic.Proofs.Overflow
import CellArithmetic.Proofs.References
import CellArithmetic.Proofs.FormulaHistory
import CellArithmetic.Proofs.Outcomes
import CellArithmetic.Proofs.SheetRefusal
import CellArithmetic.Proofs.QuietRuns
import CellArithmetic.Proofs.Record
import CellArithmetic.Proofs.Streams
