import CellArithmetic.Proofs.DependencyReport
import CellArithmetic.Proofs.Outcomes
import CellArithmetic.Proofs.SheetLines

/-! For what a sheet is refused. A text is read as a sheet when nothing is wrong with any of its
lines; else it is refused as a whole for the first line with a flaw. -/
namespace CellArithmetic

open Text Report

namespace Sheet

/-- The line has a name of the cell where it should, whatever its formula. -/
def Names (line : List Char) (cell : String) : Prop :=
  ∃ name body, Divides line name body ∧ CellName.canonical? (String.ofList (trim name)) = some cell

def NamedIn (lines : List (List Char)) (cell : String) : Prop := ∃ line ∈ lines, Names line cell

/-- What is wrong with the line of a number; lines count from one, idle ones too. -/
inductive FaultAt (lines : List (List Char)) : Nat → Fault → Prop where
  | mk (split : lines = front ++ line :: back) (flaw : Flaw (NamedIn front) line fault) :
      FaultAt lines (front.length + 1) fault

/-- The fault in the first line that has one. -/
structure FirstFault (lines : List (List Char)) (refusal : Refusal) : Prop where
  found : FaultAt lines refusal.line refusal.fault
  first : ∀ number fault, FaultAt lines number fault → refusal.line ≤ number

/-- Every line that is not idle gives its formula to a cell, and no two name the same cell. -/
structure Readable (lines : List (List Char)) : Prop where
  each : ∀ line ∈ lines, ¬Idle line → ∃ name body cell formula, Divides line name body ∧
    CellName.canonical? (String.ofList (trim name)) = some cell ∧
    Formula.ofText (String.ofList body) = .ok formula
  apart : lines.Pairwise fun line other => ∀ cell, Names line cell → ¬Names other cell

theorem Names.relevant (names : Names line cell) : ¬Idle line := by
  obtain ⟨name, body, divides, _⟩ := names
  exact divides.relevant

theorem Tells.names_iff (told : Tells line (some (cell, formula))) : Names line other ↔ other = cell := by
  obtain ⟨name, body, divides, named, _⟩ := told.divides
  constructor
  · rintro ⟨name', body', divides', named'⟩
    obtain ⟨rfl, rfl⟩ := divides.unique divides'
    exact Option.some.inj (named'.symm.trans named)
  · rintro rfl
    exact ⟨name, body, divides, named⟩

theorem namedIn_append : NamedIn (front ++ back) cell ↔ NamedIn front cell ∨ NamedIn back cell := by
  simp [NamedIn, or_and_right, exists_or]

theorem namedIn_singleton : NamedIn [line] cell ↔ Names line cell := by
  simp [NamedIn]

theorem Flaw.congr (flaw : Flaw taken line fault) (same : ∀ cell, taken cell ↔ taken' cell) :
    Flaw taken' line fault := by
  obtain rfl : taken = taken' := funext fun cell => propext (same cell)
  exact flaw

theorem Flaw.of_undivided (flaw : Flaw taken line fault) (undivided : '=' ∉ trim line) :
    fault = .malformed (String.ofList (trim line)) := by
  cases flaw with
  | malformed => rfl
  | invalidCell divides | duplicate divides | invalidFormula divides =>
    exact absurd divides.divided undivided

/-- One thing only is reported of a line. -/
theorem Flaw.unique (one : Flaw taken line fault) (two : Flaw taken line other) : fault = other := by
  by_cases divided : '=' ∈ trim line
  · obtain ⟨name, body, divides⟩ := exists_divides one.relevant divided
    obtain ⟨unnamed, rfl⟩ | ⟨cell, named, checks⟩ := divides.flaw_iff.mp one
    · obtain ⟨_, rfl⟩ | ⟨_, named, _⟩ := divides.flaw_iff.mp two
      · rfl
      · cases unnamed.symm.trans named
    · obtain ⟨unnamed, _⟩ | ⟨cell', named', checks'⟩ := divides.flaw_iff.mp two
      · cases unnamed.symm.trans named
      · cases named.symm.trans named'
        obtain ⟨again, rfl⟩ | ⟨fresh, violation, refused, rfl⟩ := checks <;>
          obtain ⟨again', rfl⟩ | ⟨fresh', violation', refused', rfl⟩ := checks'
        · rfl
        · exact absurd again fresh'
        · exact absurd again' fresh
        · cases refused.symm.trans refused'
          rfl
  · rw [one.of_undivided divided, two.of_undivided divided]

theorem faultAt_middle_iff : FaultAt (front ++ line :: back) (front.length + 1) fault ↔
    Flaw (NamedIn front) line fault := by
  constructor
  · intro faulty
    generalize same : front ++ line :: back = lines at faulty
    generalize place : front.length + 1 = number at faulty
    cases faulty with
    | mk split flaw =>
      obtain ⟨rfl, rest⟩ := List.append_inj (same.trans split) (Nat.succ.inj place)
      cases rest
      exact flaw
  · exact .mk rfl

theorem FaultAt.unique (one : FaultAt lines number fault) (two : FaultAt lines number other) :
    fault = other := by
  cases one with
  | mk split flaw =>
    subst split
    exact flaw.unique (faultAt_middle_iff.mp two)

theorem FaultAt.number_le_length (faulty : FaultAt lines number fault) : number ≤ lines.length := by
  cases faulty with
  | mk split => simp [split]

/-- Lines are readable exactly when nothing is wrong with any of them. -/
theorem readable_iff : Readable lines ↔ ∀ number fault, ¬FaultAt lines number fault := by
  constructor
  · rintro readable number fault ⟨rfl, flaw⟩
    rename_i front line back
    have member : line ∈ front ++ line :: back := by simp
    obtain ⟨name, body, cell, formula, divides, named, read⟩ := readable.each line member flaw.relevant
    have fresh : ¬NamedIn front cell := by
      rintro ⟨earlier, before, names⟩
      have apart := (List.pairwise_append.mp readable.apart).2.2 earlier before line List.mem_cons_self
      exact apart cell names ⟨name, body, divides, named⟩
    exact Tells.not_flaw (.entry divides.whole named read) fresh flaw
  · intro sound
    refine ⟨fun line member relevant => ?_, List.pairwise_iff_getElem.mpr ?_⟩
    · obtain ⟨front, back, rfl⟩ := List.append_of_mem member
      obtain idle | ⟨fault, flaw⟩ | ⟨cell, formula, told, _⟩ := idle_or_flaw_or_tells (NamedIn front) line
      · exact absurd idle relevant
      · exact absurd (.mk rfl flaw) (sound _ fault)
      · obtain ⟨name, body, divides, named, read⟩ := told.divides
        exact ⟨name, body, cell, formula, divides, named, read⟩
    · rintro i j inside inside' before cell names ⟨name, body, divides, named⟩
      have again : NamedIn (lines.take j) cell :=
        ⟨lines[i], List.mem_take_iff_getElem.mpr ⟨i, by omega, rfl⟩, names⟩
      have split : lines = lines.take j ++ lines[j] :: lines.drop (j + 1) := by simp
      exact sound _ _ (.mk split (.duplicate divides named again))

/-- Reading has come behind the front: it holds the cells named there, and no line there has
a fault. -/
structure Reached (front rest : List (List Char)) (sheet : Sheet) : Prop where
  held : ∀ cell, cell ∈ sheet ↔ NamedIn front cell
  clean : ∀ number fault, FaultAt (front ++ rest) number fault → front.length < number

theorem reached_empty (lines : List (List Char)) : Reached [] lines ∅ where
  held cell := by simp [NamedIn]
  clean number fault faulty := by
    cases faulty with
    | mk => exact Nat.succ_pos _

/-- Reading comes behind a line with nothing wrong, whatever it puts into the sheet. -/
theorem Reached.step {sheet after : Sheet} (reached : Reached front (line :: rest) sheet)
    (sound : ∀ fault, ¬Flaw (NamedIn front) line fault)
    (held : ∀ cell, cell ∈ after ↔ cell ∈ sheet ∨ Names line cell) :
    Reached (front ++ [line]) rest after where
  held cell := by rw [held, reached.held, namedIn_append, namedIn_singleton]
  clean number fault faulty := by
    rw [List.append_assoc, List.singleton_append] at faulty
    have behind := reached.clean number fault faulty
    rw [List.length_append, List.length_singleton]
    refine lt_of_le_of_ne behind ?_
    rintro rfl
    exact sound fault (faultAt_middle_iff.mp faulty)

/-- How reading ends. -/
inductive Verdict (lines : List (List Char)) : Except Refusal Sheet → Prop where
  | refused (first : FirstFault lines refusal) : Verdict lines (.error refusal)
  | read (sound : ∀ number fault, ¬FaultAt lines number fault) : Verdict lines (.ok sheet)

theorem Reached.verdict {sheet : Sheet} (reached : Reached front rest sheet) :
    Verdict (front ++ rest) (readLines sheet (front.length + 1) rest).2 := by
  induction rest generalizing front sheet with
  | nil =>
    refine .read fun number fault faulty => ?_
    have behind := reached.clean number fault faulty
    have inside := faulty.number_le_length
    rw [List.append_nil] at inside
    omega
  | cons line rest ih =>
    -- The next line moves to the front, where its name is taken from now on.
    have shift : front ++ line :: rest = front ++ [line] ++ rest := List.append_cons front line rest
    have count : front.length + 1 = (front ++ [line]).length := by simp
    obtain idle | ⟨fault, flaw⟩ | ⟨cell, formula, told, fresh⟩ :=
      idle_or_flaw_or_tells (· ∈ sheet) line
    · rw [readLines_of_idle idle, shift, count]
      refine ih (reached.step (fun fault flaw => flaw.relevant idle) fun cell => ?_)
      exact (or_iff_left fun names => names.relevant idle).symm
    · rw [readLines_of_flaw flaw]
      have found : FaultAt (front ++ line :: rest) (front.length + 1) fault :=
        faultAt_middle_iff.mpr (flaw.congr reached.held)
      exact .refused ⟨found, fun number fault faulty => reached.clean number fault faulty⟩
    · rw [readLines_of_tells told fresh, shift, count]
      have untaken : ¬NamedIn front cell := mt (reached.held cell).mpr fresh
      refine ih (reached.step (fun fault => told.not_flaw untaken) fun other => ?_)
      rw [told.names_iff, Std.ExtTreeMap.mem_insert, compare_eq_iff_eq, eq_comm, or_comm]

theorem verdict_read (text : String) : Verdict (splitLines text) (read text).2 :=
  (reached_empty (splitLines text)).verdict

theorem FirstFault.unique (one : FirstFault lines refusal) (two : FirstFault lines other) :
    refusal = other := by
  obtain ⟨number, fault⟩ := refusal
  obtain ⟨number', fault'⟩ := other
  obtain rfl : number = number' := le_antisymm (one.first _ _ two.found) (two.first _ _ one.found)
  obtain rfl := one.found.unique two.found
  rfl

theorem sound_of_read (read : (Sheet.read text).2 = .ok sheet) (number : Nat) (fault : Fault) :
    ¬FaultAt (splitLines text) number fault := by
  have verdict := verdict_read text
  rw [read] at verdict
  cases verdict with
  | read sound => exact sound number fault

theorem firstFault_of_refused (refused : (read text).2 = .error refusal) :
    FirstFault (splitLines text) refusal := by
  have verdict := verdict_read text
  rw [refused] at verdict
  cases verdict with
  | refused first => exact first

theorem exists_read_iff : (∃ sheet, (read text).2 = .ok sheet) ↔ Readable (splitLines text) := by
  rw [readable_iff]
  cases result : (read text).2 with
  | ok sheet => exact iff_of_true ⟨sheet, rfl⟩ (sound_of_read result)
  | error refusal =>
    have first := firstFault_of_refused result
    exact iff_of_false (by simp) fun sound => sound _ _ first.found

theorem read_eq_error_iff : (read text).2 = .error refusal ↔ FirstFault (splitLines text) refusal := by
  refine ⟨firstFault_of_refused, fun first => ?_⟩
  cases result : (read text).2 with
  | ok sheet => exact absurd first.found (sound_of_read result _ _)
  | error other => rw [(firstFault_of_refused result).unique first]

/-- A text is read as a sheet when every line that is not idle defines a cell and no cell is
defined twice; the sheet holds just what the lines tell. Else it is refused for the first line
with a flaw, and nothing but the refusal is told of its dependencies. -/
theorem read_whole_or_refused_at_first_fault (text : String) :
    MakeUp (splitLines text) text ∧
    ((∃ sheet, (read text).2 = .ok sheet) ↔ Readable (splitLines text)) ∧
    (∀ sheet, (read text).2 = .ok sheet → ∀ cell formula, sheet[cell]? = some formula ↔
      ∃ line ∈ splitLines text, Tells line (some (cell, formula))) ∧
    (∀ refusal, (read text).2 = .error refusal ↔ FirstFault (splitLines text) refusal) ∧
    ∀ refusal, (read text).2 = .error refusal → ∀ (environment : Environment) options path json,
      environment.files path = .ok text.toUTF8 →
      let outcome := Outcome.ofCommand environment options (.deps path json)
      outcome.code = failure ∧ outcome.stdout = "" ∧
        outcome.Complains (environment.color && !options.plain) refusal.message := by
  refine ⟨splitLines_makeUp text, exists_read_iff, ?_, fun refusal => read_eq_error_iff, ?_⟩
  · intro sheet read cell formula
    exact (read_eq_ok_iff.mp read).getElem?_eq_some_iff
  · intro refusal refused environment options path json held
    have silent : (Outcome.ofCommand environment options (.deps path json)).code = failure ∧
        (Outcome.ofCommand environment options (.deps path json)).stdout = "" := by
      rw [Outcome.ofCommand_of_writes (deps_of_refused held refused json)]
      exact ⟨rfl, rfl⟩
    exact ⟨silent.1, silent.2, Outcome.complains_of_writes (deps_of_refused held refused json)⟩

/-- A readable sheet, and one that names a cell twice in front of a line without an equals sign. -/
theorem read_whole_or_refused_at_first_fault_duplicate :
    (∃ text sheet, text = "\nB1 = A1 + 2\r\n" ∧ (read text).2 = .ok sheet ∧
      Readable (splitLines text) ∧ ∀ cell formula, sheet[cell]? = some formula ↔
        ∃ line ∈ splitLines text, Tells line (some (cell, formula))) ∧
    ∃ (environment : Environment) (text : String) (refusal : Refusal),
      text = "# sums\r\nB1 = A1\n\n b01 = 2=3\nC1" ∧ environment.files "sheet" = .ok text.toUTF8 ∧
      (read text).2 = .error refusal ∧ refusal.message = "line 4: cell 'B1' is already defined" ∧
      FirstFault (splitLines text) refusal ∧
      let outcome := Outcome.ofCommand environment ⟨false, false, false⟩ (.deps "sheet" true)
      outcome.code = failure ∧ outcome.stdout = "" ∧ outcome.Complains true refusal.message := by
  constructor
  · let text := "\nB1 = A1 + 2\r\n"
    have accepted : (read text).2.toBool = true := by decide +kernel
    have whole := read_whole_or_refused_at_first_fault text
    cases result : (read text).2 with
    | error refusal =>
      rw [result] at accepted
      cases accepted
    | ok sheet =>
      exact ⟨text, sheet, rfl, result, whole.2.1.mp ⟨sheet, result⟩, whole.2.2.1 sheet result⟩
  · let text := "# sums\r\nB1 = A1\n\n b01 = 2=3\nC1"
    let environment : Environment := ⟨fun _ => .ok text.toUTF8, true, ⟨[], []⟩⟩
    have message : ((read text).2.mapError Refusal.message).map (fun _ => ()) =
        .error "line 4: cell 'B1' is already defined" := by
      decide +kernel
    have whole := read_whole_or_refused_at_first_fault text
    cases result : (read text).2 with
    | ok sheet =>
      rw [result] at message
      cases message
    | error refusal =>
      rw [result] at message
      exact ⟨environment, text, refusal, rfl, rfl, result, Except.error.inj message,
        (whole.2.2.2.1 refusal).mp result,
        whole.2.2.2.2 refusal result environment ⟨false, false, false⟩ "sheet" true rfl⟩

end Sheet

end CellArithmetic
