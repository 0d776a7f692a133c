import CellArithmetic.Proofs.Canonical
import CellArithmetic.Proofs.DependencyReport
import CellArithmetic.Proofs.SheetLines

/-! Sheets that mean the same. Lines may change places, blank lines and comments may come
and go, and a definition may be spelled in another way: the sheet that is read stays the
same, and so does all that is told about its dependencies. -/
namespace CellArithmetic

open Text Report

namespace Sheet

/-- One change to the lines of a sheet that leaves their meaning alone. -/
inductive Rework : List (List Char) → List (List Char) → Prop where
  | permute (same : lines.Perm others) : Rework lines others
  | insert (idle : Idle line) : Rework (front ++ back) (front ++ line :: back)
  | delete (idle : Idle line) : Rework (front ++ line :: back) (front ++ back)
  /-- Other blanks at the ends of a line. -/
  | reblank (same : trim line = trim other) : Rework (front ++ line :: back) (front ++ other :: back)
  /-- Another name for the same cell, and another text of an equal formula. -/
  | respell (named : CellName.canonical? (String.ofList (trim name)) = some cell)
      (renamed : CellName.canonical? (String.ofList (trim name')) = some cell)
      (read : Formula.ofText (String.ofList body) = .ok formula)
      (reread : Formula.ofText (String.ofList body') = .ok formula')
      (equal : (formula == formula') = true) :
      Rework (front ++ (name ++ '=' :: body) :: back) (front ++ (name' ++ '=' :: body') :: back)

/-- A definition tells the same with the blanks that stand at the ends of its line. -/
theorem tells_definition (named : CellName.canonical? (String.ofList (trim name)) = some cell)
    (read : Formula.ofText (String.ofList body) = .ok formula) :
    Tells (name ++ '=' :: body) (some (cell, formula)) := by
  apply Tells.entry (trim_append rfl name body)
  · rwa [trim_dropWhile]
  · have trimmed := Formula.ofText_rdropWhile_blank read
    rwa [String.toList_ofList] at trimmed

/-- Every change keeps the sheet that the lines define. -/
theorem Defines.rework (defines : Defines lines sheet) (step : Rework lines others) :
    Defines others sheet := by
  cases step with
  | permute same => exact defines.perm same.symm
  | insert idle => exact ((defines_idle_cons_iff idle).mpr defines).perm List.perm_middle
  | delete idle => exact (defines_idle_cons_iff idle).mp (defines.perm List.perm_middle.symm)
  | reblank same =>
    have front := (defines.perm List.perm_middle.symm).replace fun _ told => told.of_trim_eq same
    exact front.perm List.perm_middle
  | respell named renamed read reread equal =>
    have same := Formula.eq_of_text_eq read reread (LawfulBEq.eq_of_beq (α := String) equal)
    subst same
    have front := (defines.perm List.perm_middle.symm).replace fun _ told =>
      told.unique (tells_definition named read) ▸ tells_definition renamed reread
    exact front.perm List.perm_middle

theorem Defines.reworked (defines : Defines lines sheet)
    (steps : Relation.ReflTransGen Rework lines others) : Defines others sheet := by
  induction steps with
  | refl => exact defines
  | tail _ step ih => exact ih.rework step

end Sheet

namespace Report

open Sheet

/-- The dependencies are told only of a sheet that can be read. -/
theorem read_of_deps {environment : Environment} (held : environment.files path = .ok text.toUTF8)
    (exits : (Outcome.ofCommand environment options (.deps path json)).code = success) :
    ∃ sheet, (Sheet.read text).2 = .ok sheet := by
  cases read : (Sheet.read text).2 with
  | ok sheet => exact ⟨sheet, rfl⟩
  | error refusal =>
    rw [Outcome.ofCommand_of_writes (deps_of_refused held read json)] at exits
    cases exits

/-- Of a readable sheet the listing is told, whatever its text notes down. -/
theorem deps_code_stdout {environment : Environment} (held : environment.files path = .ok text.toUTF8)
    (read : (Sheet.read text).2 = .ok sheet) (options : Options) (json : Bool) :
    (Outcome.ofCommand environment options (.deps path json)).code = success ∧
      (Outcome.ofCommand environment options (.deps path json)).stdout =
        unlines ((environment.console options).told
          (sheet.listing.output (environment.console options).color json)) := by
  have whole : Sheet.read text = ((Sheet.read text).1, .ok sheet) := Prod.ext rfl read
  rw [Outcome.ofCommand_of_writes (deps_of_read held whole json)]
  exact ⟨rfl, rfl⟩

/-- The dependencies in a sheet are told from its meaning alone: of a text whose lines are
those of a readable sheet in another order, with other blank lines and comments, and with
other spellings of names and formulas, exactly the same is told. -/
theorem deps_of_reworked {environment : Environment} {files : Files}
    (held : environment.files path = .ok text.toUTF8) (holds : files path = .ok other.toUTF8)
    (reworked : Relation.ReflTransGen Rework (splitLines text) (splitLines other))
    (exits : (Outcome.ofCommand environment options (.deps path json)).code = success) :
    (Outcome.ofCommand { environment with files } options (.deps path json)).code = success ∧
      (Outcome.ofCommand { environment with files } options (.deps path json)).stdout =
        (Outcome.ofCommand environment options (.deps path json)).stdout := by
  obtain ⟨sheet, read⟩ := read_of_deps held exits
  have reread := read_eq_ok_iff.mpr ((read_eq_ok_iff.mp read).reworked reworked)
  have told := deps_code_stdout held read options json
  have held' : ({ environment with files } : Environment).files path = .ok other.toUTF8 := holds
  have retold := deps_code_stdout held' reread options json
  exact ⟨retold.1, retold.2.trans told.2.symm⟩

theorem deps_of_reworked_halves : ∃ (environment : Environment) (files : Files) (text other : String)
    (options : Options), text = "b2 = A1 + 1\nA1=.5" ∧
    other = "# halves\r\n a01= 0.50\n\nb2 = A1 + 1" ∧
    environment.files "sheet" = .ok text.toUTF8 ∧ files "sheet" = .ok other.toUTF8 ∧
    Relation.ReflTransGen Rework (splitLines text) (splitLines other) ∧
    (Outcome.ofCommand environment options (.deps "sheet" true)).code = success ∧
    (Outcome.ofCommand { environment with files } options (.deps "sheet" true)).code = success ∧
    (Outcome.ofCommand { environment with files } options (.deps "sheet" true)).stdout =
      (Outcome.ofCommand environment options (.deps "sheet" true)).stdout := by
  let text := "b2 = A1 + 1\nA1=.5"
  let other := "# halves\r\n a01= 0.50\n\nb2 = A1 + 1"
  let environment : Environment := ⟨fun _ => .ok text.toUTF8, false, ⟨[], []⟩⟩
  let sum := "b2 = A1 + 1".toList
  have accepted : (Formula.ofText (String.ofList ".5".toList)).toBool = true := by decide +kernel
  have again : (Formula.ofText (String.ofList " 0.50".toList)).toBool = true := by decide +kernel
  have equal : normalize (String.ofList ".5".toList) = normalize (String.ofList " 0.50".toList) := by
    decide +kernel
  have respelled : Rework ([] ++ ("A1".toList ++ '=' :: ".5".toList) :: [sum])
      ([] ++ (" a01".toList ++ '=' :: " 0.50".toList) :: [sum]) := by
    cases read : Formula.ofText (String.ofList ".5".toList) with
    | error violation =>
      rw [read] at accepted
      cases accepted
    | ok formula =>
      cases reread : Formula.ofText (String.ofList " 0.50".toList) with
      | error violation =>
        rw [reread] at again
        cases again
      | ok formula' =>
        rw [normalize, normalize, read, reread] at equal
        have texts : formula.text = formula'.text := Except.ok.inj equal
        have same : (formula.text == formula'.text) = true := beq_iff_eq.mpr texts
        have cell : CellName.canonical? (String.ofList (trim "A1".toList)) = some "A1" := by
          decide +kernel
        have cell' : CellName.canonical? (String.ofList (trim " a01".toList)) = some "A1" := by
          decide +kernel
        exact .respell cell cell' read reread same
  have reworked : Relation.ReflTransGen Rework (splitLines text) (splitLines other) := by
    have lines : splitLines text = [sum, "A1=.5".toList] := by decide +kernel
    have lines' : splitLines other =
        ["# halves\r".toList, " a01= 0.50".toList, [], sum] := by
      decide +kernel
    have swapped : Rework [sum, "A1=.5".toList] ["A1=.5".toList, sum] := .permute (.swap _ _ _)
    have spaced : Rework ([" a01= 0.50".toList] ++ [sum]) ([" a01= 0.50".toList] ++ [] :: [sum]) :=
      .insert (.inl rfl)
    have noted : Rework ([] ++ [" a01= 0.50".toList, [], sum])
        ([] ++ "# halves\r".toList :: [" a01= 0.50".toList, [], sum]) :=
      .insert (.inr (by decide +kernel))
    rw [lines, lines']
    exact .tail (.tail (.tail (.single swapped) respelled) spaced) noted
  have exits : (Outcome.ofCommand environment ⟨false, false, false⟩ (.deps "sheet" true)).code =
      success := by
    decide +kernel
  exact ⟨environment, fun _ => .ok other.toUTF8, text, other, ⟨false, false, false⟩, rfl, rfl, rfl, rfl,
    reworked, exits, deps_of_reworked rfl rfl reworked exits⟩

end Report

end CellArithmetic
