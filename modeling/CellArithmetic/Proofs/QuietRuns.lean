import CellArithmetic.Command.Report

/-! Quiet runs. Two sessions are followed from the same log on, one of them quiet. Each line of
output is kept back where it would be written, and nothing else is; so after every step the logs are
the same again, and the quiet session has told nothing. -/
namespace CellArithmetic

namespace Report

/-- From the same log on, both sessions end with the same value and the same log, and the quiet one
leaves the output as it was. -/
def Silences (quiet loud : StateM Streams α) : Prop :=
  ∀ told told' noted, ∃ value after after',
    quiet.run ⟨told, noted⟩ = (value, ⟨told, after⟩) ∧
    loud.run ⟨told', noted⟩ = (value, ⟨after', after⟩)

theorem silences_pure (value : α) : Silences (pure value) (pure value) :=
  fun _ told' noted => ⟨value, noted, told', rfl, rfl⟩

theorem Silences.bind {quiet loud : StateM Streams α} {next next' : α → StateM Streams β}
    (first : Silences quiet loud) (second : ∀ value, Silences (next value) (next' value)) :
    Silences (quiet >>= next) (loud >>= next') := by
  intro told told' noted
  obtain ⟨value, between, told', ran, ran'⟩ := first told told' noted
  obtain ⟨result, after, after', finished, finished'⟩ := second value told told' between
  refine ⟨result, after, after', ?_, ?_⟩
  · rw [StateT.run_bind, ran]
    exact finished
  · rw [StateT.run_bind, ran']
    exact finished'

theorem Silences.ending {quiet loud : StateM Streams Unit} (silences : Silences quiet loud) (value : α) :
    Silences (quiet >>= fun _ => pure value) (loud >>= fun _ => pure value) :=
  silences.bind fun _ => silences_pure value

/-- Where a line of output would be written, the quiet session does nothing. -/
theorem silences_print (text : String) : Silences (pure ()) (print text) :=
  fun _ told' noted => ⟨(), noted, told' ++ text ++ "\n", rfl, rfl⟩

theorem silences_printError (text : String) : Silences (printError text) (printError text) :=
  fun _ told' noted => ⟨(), noted ++ text ++ "\n", told', rfl, rfl⟩

theorem Silences.forM {step step' : β → StateM Streams Unit}
    (each : ∀ item, Silences (step item) (step' item)) (items : List β) :
    Silences (items.forM step) (items.forM step') := by
  induction items with
  | nil => exact silences_pure ()
  | cons item items ih => exact (each item).bind fun _ => ih

/-- The same console in a quiet run. -/
def Console.hushed (console : Console) : Console := { console with quiet := true }

namespace Console

variable (console : Console)

theorem silences_line (text : String) : Silences (console.hushed.line text) (console.line text) := by
  obtain ⟨quiet, color, log, usual⟩ := console
  cases quiet with
  | true => exact silences_pure ()
  | false => exact silences_print text

theorem silences_json (value : Json) : Silences (console.hushed.json value) (console.json value) :=
  console.silences_line value.text

theorem silences_note (events : List Journal.Event) :
    Silences (console.hushed.note events) (console.note events) :=
  .forM silences_printError _

theorem silences_complain (message : String) :
    Silences (console.hushed.complain message) (console.complain message) :=
  silences_printError _

theorem silences_readFormula (text : String) :
    Silences (console.hushed.readFormula text) (console.readFormula text) :=
  (console.silences_note _).ending _

end Console

section Commands

variable (console : Console)

theorem silences_onFormula {report report' : Formula → Report}
    (each : ∀ formula, Silences (report formula) (report' formula)) (text : String) :
    Silences (onFormula console.hushed text report) (onFormula console text report') := by
  refine (console.silences_readFormula text).bind fun result => ?_
  cases result with
  | ok formula => exact each formula
  | error violation => exact (console.silences_complain _).ending _

theorem silences_validate (text : String) (json : Bool) :
    Silences (validate console.hushed text json) (validate console text json) := by
  refine (console.silences_readFormula text).bind fun result => ?_
  cases json with
  | true => exact (console.silences_json _).ending _
  | false =>
    cases result with
    | ok formula =>
      -- here the command itself keeps the line back
      obtain ⟨quiet, color, log, usual⟩ := console
      cases quiet with
      | true => exact silences_pure _
      | false => exact (silences_print _).ending _
    | error violation => exact (console.silences_complain _).ending _

theorem silences_diff (left right : String) :
    Silences (diff console.hushed left right) (diff console left right) := by
  refine (console.silences_readFormula left).bind fun first => ?_
  refine (console.silences_readFormula right).bind fun second => ?_
  cases first with
  | error violation => exact (console.silences_complain _).ending _
  | ok f =>
    cases second with
    | error violation => exact (console.silences_complain _).ending _
    | ok g =>
      dsimp only
      split
      · exact (console.silences_line _).ending _
      · exact (console.silences_line _).bind fun _ => (console.silences_line _).ending _

theorem silences_tellDependencies (graph : DependencyGraph) (cells : List String) (json : Bool) :
    Silences (tellDependencies console.hushed graph cells json) (tellDependencies console graph cells json) := by
  cases json with
  | true => exact console.silences_json _
  | false => exact .forM (fun _ => console.silences_line _) cells

theorem silences_deps (files : Files) (path : String) (json : Bool) :
    Silences (deps console.hushed files path json) (deps console files path json) := by
  unfold deps
  cases readSheet files path with
  | error reason => exact (console.silences_complain _).ending _
  | ok text =>
    dsimp only
    cases Sheet.read text with
    | mk events result =>
      refine (console.silences_note events).bind fun _ => ?_
      cases result with
      | error refusal => exact (console.silences_complain _).ending _
      | ok sheet =>
        refine (console.silences_note _).bind fun _ => ?_
        exact (silences_tellDependencies console _ _ json).ending _

theorem silences_tellNames (names : List String) (json : Bool) :
    Silences (tellNames console.hushed names json) (tellNames console names json) := by
  cases json with
  | true => exact console.silences_json _
  | false => exact .forM console.silences_line names

theorem silences_ofCommand (files : Files) (telling : command ≠ .version) :
    Silences (ofCommand console.hushed files command) (ofCommand console files command) := by
  cases command with
  | validate text json => exact silences_validate console text json
  | normalize text => exact silences_onFormula console (fun _ => (console.silences_line _).ending _) text
  | cells text json =>
    exact silences_onFormula console (fun _ => (silences_tellNames console _ json).ending _) text
  | hash text => exact silences_onFormula console (fun _ => (console.silences_line _).ending _) text
  | diff left right => exact silences_diff console left right
  | deps path json => exact silences_deps console files path json
  | version => contradiction

theorem silences_ofRun (environment : Environment) (options : Options) (telling : command ≠ .version) :
    Silences (ofRun environment { options with quiet := true } command)
      (ofRun environment options command) :=
  (Silences.forM silences_printError _).bind fun _ =>
    silences_ofCommand (environment.console options) environment.files telling

end Commands

end Report

namespace Outcome

open Report

/-- The second run exits and complains as the first one does, and tells nothing. -/
structure Silenced (loud quiet : Outcome) : Prop where
  code : quiet.code = loud.code
  stderr : quiet.stderr = loud.stderr
  stdout : quiet.stdout = ""

theorem silenced_of_silences {quiet loud : Report} (silences : Silences quiet loud) :
    Silenced (ofReport loud) (ofReport quiet) := by
  obtain ⟨ending, noted, told, hushed, heard⟩ := silences "" "" ""
  rw [ofReport, ofReport, hushed, heard]
  exact ⟨rfl, rfl, rfl⟩

/-- The version is told in any case. -/
theorem version_ignores_quiet (environment : Environment) (options : Options) (quiet : Bool) :
    ofCommand environment { options with quiet } .version = ofCommand environment options .version :=
  rfl

/-- To be quiet only silences a run. Be the formulas valid and the sheet readable or not, the exit
code, the log and the complaint stay the same; and of all commands only the version tells anything. -/
theorem quiet_only_silences (environment : Environment) (options : Options) {command : Command}
    (telling : command ≠ .version) :
    Silenced (ofCommand environment options command)
      (ofCommand environment { options with quiet := true } command) :=
  silenced_of_silences (silences_ofRun environment options telling)

/-- A valid formula that is noted down, and a sheet that is not there. -/
theorem quiet_only_silences_valid :
    let run := ofCommand ⟨fun _ => .error .notFound, true, .ofSetting "debug"⟩
    let loud : Options := ⟨false, false, true⟩
    let quiet : Options := { loud with quiet := true }
    run loud (.validate "5 + x1" false) =
      ⟨success, "valid: 5+X1\n", "DEBUG formula accepted canonical=5+X1 variables=1\n"⟩ ∧
    Silenced (run loud (.validate "5 + x1" false)) (run quiet (.validate "5 + x1" false)) ∧
    run loud (.deps "sheet" true) = ⟨Report.failure, "",
      "error: cannot read sheet: No such file or directory (os error 2)\n"⟩ ∧
    Silenced (run loud (.deps "sheet" true)) (run quiet (.deps "sheet" true)) := by
  intro run loud quiet
  exact ⟨by decide +kernel, quiet_only_silences _ loud (by decide), by decide +kernel,
    quiet_only_silences _ loud (by decide)⟩

end Outcome

end CellArithmetic
