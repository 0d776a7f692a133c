import CellArithmetic.Command.Report

/-! The command line: arguments, files and environment go in, an outcome comes out. -/
namespace CellArithmetic

/-- The content of a file, or why it cannot be had. -/
def readFile (path : String) : IO (Except Report.ReadFailure ByteArray) := do
  try
    return .ok (← IO.FS.readBinFile path)
  catch
    | .noFileOrDirectory .. => return .error .notFound
    | .inappropriateType .. | .illegalOperation .. => return .error .isDirectory
    | failure => return .error (.other (toString failure))

def filesFor : Request → IO Report.Files
  | .run _ (.deps path _) => do
    let content ← readFile path
    return fun _ => content
  | _ => return fun _ => .error .notFound

end CellArithmetic

open CellArithmetic in
def main (arguments : List String) : IO UInt32 := do
  let request := Request.ofArguments arguments
  let files ← filesFor request
  let color := (← IO.getEnv "NO_COLOR").isNone && (← (← IO.getStdout).isTty)
  let log := Journal.Filter.ofSetting ((← IO.getEnv "RUST_LOG").getD "")
  let outcome := Outcome.ofRequest ⟨files, color, log⟩ request
  (← IO.getStdout).putStr outcome.stdout
  (← IO.getStderr).putStr outcome.stderr
  return outcome.code.toUInt32
