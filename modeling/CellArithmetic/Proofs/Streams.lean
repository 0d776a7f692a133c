import CellArithmetic.Command.Report

/-! What commands add to the streams. A session ends with the same value and adds the same lines
whatever has been written before, so what a whole command writes is put together from its steps. -/
namespace CellArithmetic

namespace Report

variable {session : StateM Streams α} {out err out' err' : List String}

def unlines (lines : List String) : String := String.join (lines.map (· ++ "\n"))

theorem unlines_nil : unlines [] = "" := rfl

theorem unlines_singleton (line : String) : unlines [line] = line ++ "\n" := by
  simp [unlines]

theorem unlines_append (first second : List String) :
    unlines (first ++ second) = unlines first ++ unlines second := by
  simp [unlines]

/-- A session ends with a value, and adds lines to the two streams. -/
def Writes (session : StateM Streams α) (value : α) (out err : List String) : Prop :=
  ∀ streams, session.run streams =
    (value, ⟨streams.stdout ++ unlines out, streams.stderr ++ unlines err⟩)

theorem writes_pure (value : α) : Writes (pure value) value [] [] := by
  intro streams
  rw [unlines_nil, String.append_empty, String.append_empty]
  rfl

theorem Writes.bind {next : α → StateM Streams β} (first : Writes session value out err)
    (second : Writes (next value) result out' err') :
    Writes (session >>= next) result (out ++ out') (err ++ err') := by
  intro streams
  rw [unlines_append, unlines_append, ← String.append_assoc, ← String.append_assoc, StateT.run_bind, first]
  exact second _

theorem Writes.andThen {session : StateM Streams Unit} {next : StateM Streams α}
    (first : Writes session () out err) (second : Writes next value out' err') :
    Writes (session >>= fun _ => next) value (out ++ out') (err ++ err') :=
  first.bind second

theorem Writes.ending {session : StateM Streams Unit} (writes : Writes session () out err) (value : α) :
    Writes (session >>= fun _ => pure value) value out err := by
  simpa only [List.append_nil] using writes.andThen (writes_pure value)

theorem writes_print (text : String) : Writes (print text) () [text] [] := by
  intro streams
  rw [unlines_nil, unlines_singleton, String.append_empty, ← String.append_assoc]
  rfl

theorem writes_printError (text : String) : Writes (printError text) () [] [text] := by
  intro streams
  rw [unlines_nil, unlines_singleton, String.append_empty, ← String.append_assoc]
  rfl

theorem Writes.forM {step : β → StateM Streams Unit} {out err : β → List String}
    (each : ∀ item, Writes (step item) () (out item) (err item)) (items : List β) :
    Writes (items.forM step) () (items.flatMap out) (items.flatMap err) := by
  induction items with
  | nil => exact writes_pure ()
  | cons item items ih => exact (each item).andThen ih

/-- All lines go to stderr. -/
theorem writes_errors (lines : List String) : Writes (lines.forM printError) () [] lines := by
  have all := Writes.forM writes_printError lines
  rwa [List.flatMap_singleton', List.flatMap_eq_nil_iff.mpr fun _ _ => rfl] at all

namespace Console

variable (console : Console)

/-- The lines of output that are told: a quiet run tells none. -/
def told (lines : List String) : List String := if console.quiet then [] else lines

theorem unlines_told (lines : List String) :
    unlines (console.told lines) = if console.quiet then "" else unlines lines := by
  unfold told
  split <;> rfl

theorem shown_append (first second : List Journal.Event) :
    console.shown first ++ console.shown second = console.shown (first ++ second) := by
  simp only [shown, Journal.Filter.lines, ← List.map_append, ← List.filter_append]

theorem flatMap_told (text : α → String) (items : List α) :
    items.flatMap (fun item => console.told [text item]) = console.told (items.map text) := by
  unfold told
  split
  · exact List.flatMap_eq_nil_iff.mpr fun _ _ => rfl
  · exact List.map_eq_flatMap.symm

theorem writes_line (text : String) : Writes (console.line text) () (console.told [text]) [] := by
  unfold line told
  split
  · exact writes_pure ()
  · exact writes_print text

theorem writes_json (value : Json) : Writes (console.json value) () (console.told [value.text]) [] :=
  console.writes_line value.text

theorem writes_lines (text : α → String) (items : List α) :
    Writes (items.forM fun item => console.line (text item)) () (console.told (items.map text)) [] := by
  have all := Writes.forM (fun item => console.writes_line (text item)) items
  rwa [flatMap_told, List.flatMap_eq_nil_iff.mpr fun _ _ => rfl] at all

theorem writes_note (events : List Journal.Event) :
    Writes (console.note events) () [] (console.shown events) :=
  writes_errors _

theorem writes_complain (message : String) :
    Writes (console.complain message) () [] [console.complaint message] :=
  writes_printError _

end Console

end Report

namespace Outcome

open Report

variable {environment : Environment} {options : Options} {command : Command} {ending : Nat}
  {out err : List String}

/-- A run starts with empty streams. -/
theorem ofReport_of_writes {report : Report} (writes : Writes report ending out err) :
    ofReport report = ⟨ending, unlines out, unlines err⟩ := by
  rw [ofReport, writes, String.empty_append, String.empty_append]

/-- What is wrong with the log setting comes in front of what the command notes. -/
theorem ofCommand_of_writes
    (writes : Writes (Report.ofCommand (environment.console options) environment.files command)
      ending out err) :
    ofCommand environment options command =
      ⟨ending, unlines out, unlines (environment.log.complaints ++ err)⟩ :=
  ofReport_of_writes ((writes_errors environment.log.complaints).andThen writes)

end Outcome

end CellArithmetic
