import CellArithmetic.Proofs.Composition
import CellArithmetic.Proofs.SheetLines

/-! References to cells. Names are recognized in two ways: as a whole text, where a line of a sheet
defines a cell, and by the scanner, where a formula refers to one. Both take the same texts, so
sheets define just the cells that formulas can refer to, and by the same canonical names. -/
namespace CellArithmetic

open Grammar Text

namespace Text

/-- What stands behind a number of bytes, if a character ends with the last of them. -/
def behindBytes? (text : String) (bytes : Nat) : Option String :=
  if ends : String.Pos.Raw.IsValid text ⟨bytes⟩ then
    some (text.sliceFrom (text.pos ⟨bytes⟩ ends)).copy
  else none

theorem behindBytes?_append (front rest : String) :
    behindBytes? (front ++ rest) front.utf8ByteSize = some rest := by
  have ends : String.Pos.Raw.IsValid (front ++ rest) ⟨front.utf8ByteSize⟩ :=
    String.Pos.Raw.isValid_rawEndPos.append_right rest
  have splits : ((front ++ rest).pos ⟨front.utf8ByteSize⟩ ends).Splits front rest := ⟨rfl, rfl⟩
  rw [behindBytes?, dif_pos ends, splits.copy_sliceFrom_eq]

theorem utf8Size_of_alpha {c : Char} (alpha : c.isAlpha = true) : c.utf8Size = 1 := by
  have range := isAlpha_iff_toNat.mp alpha
  rw [Char.utf8Size_eq_one_iff, UInt32.le_iff_toNat_le]
  change c.toNat ≤ 127
  omega

theorem utf8ByteSize_of_alpha {s : List Char} (alpha : ∀ c ∈ s, c.isAlpha = true) :
    (String.ofList s).utf8ByteSize = s.length := by
  induction s with
  | nil => rfl
  | cons c s ih =>
    obtain ⟨first, rest⟩ := List.forall_mem_cons.mp alpha
    rw [String.ofList_cons, String.utf8ByteSize_append, String.utf8ByteSize_singleton,
      utf8Size_of_alpha first, ih rest, List.length_cons, Nat.add_comm]

theorem trim_of_shown {s : List Char} (shown : ∀ c ∈ s, isBlank c = false) : trim s = s := by
  have stays {s : List Char} (shown : ∀ c ∈ s, isBlank c = false) : s.dropWhile isBlank = s := by
    cases s with
    | nil => rfl
    | cons c s => simp [shown c List.mem_cons_self]
  rw [trim, stays shown, stays (by simpa using shown), List.reverse_reverse]

end Text

namespace CellName

/-- Letters are single bytes, so what follows them stands behind as many bytes. -/
theorem behindBytes?_letters (text : String) :
    behindBytes? text (text.toList.takeWhile Char.isAlpha).length =
      some (String.ofList (text.toList.dropWhile Char.isAlpha)) := by
  have cut := behindBytes?_append (String.ofList (text.toList.takeWhile Char.isAlpha))
    (String.ofList (text.toList.dropWhile Char.isAlpha))
  rwa [utf8ByteSize_of_alpha fun _ => List.mem_takeWhile_imp, ← String.ofList_append,
    List.takeWhile_append_dropWhile, String.ofList_toList] at cut

/-- A name by itself is scanned as a single token. -/
theorem scan_of_isName (named : IsName text.toList) : scan text = [⟨.cell text, text, .start⟩] := by
  have placed := Placed.single .start (.cell named)
  rw [String.ofList_toList] at placed
  rw [scan, Cursor.ofText, (placed.trace (.singleton _)).drain_eq]

theorem isName_of_scan (scanned : scan text = [here]) (found : here.token = .cell name)
    (whole : here.lexeme = text) : IsName text.toList := by
  have trace := ScanTrace.of_scan text
  rw [scanned] at trace
  have layout := trace.layout (by simp [found, Token.isUnrecognized])
  have spelled : here.token.Spelled here.lexeme.toList := by
    generalize text.toList = s at layout
    cases layout with
    | token _ spelled _ => exact spelled
  rw [found, whole] at spelled
  cases spelled with
  | cell named => exact named

/-- As a formula a name refers to its own cell alone. -/
theorem ofText_of_isName (named : IsName text.toList) :
    Formula.ofText text = .ok ⟨[.cell (canonical text)], canonical text, {canonical text}⟩ := by
  have read := Formula.ofText_of_run (.single (.cell named)) rfl (.cons .cell .nil)
  rw [String.ofList_toList] at read
  rw [read, Formula.ofSymbols]
  simp [Symbol.text]
  rfl

end CellName

/-- The cells among the symbols of a layout are named in it. -/
theorem Layout.exists_name (layout : Layout parts s)
    (canonical : List.Forall₂ Token.Canonical (parts.map Prod.fst) symbols)
    (member : Symbol.cell cell ∈ symbols) : ∃ name, CellName.canonical? name = some cell := by
  obtain ⟨token, name, spelled, cell⟩ := layout.exists_spelled canonical member
  cases cell
  cases spelled with
  | cell named =>
    refine ⟨_, CellName.canonical?_eq_some_iff.mpr ⟨?_, rfl⟩⟩
    rwa [String.toList_ofList]

namespace Formula

/-- A formula refers to its cells by name. -/
theorem exists_name_of_mem_cells (read : ofText source = .ok formula) (member : cell ∈ formula.cells) :
    ∃ name, CellName.canonical? name = some cell := by
  obtain ⟨layout, _, symbols, canonical, rfl⟩ := layout_of_ofText read
  exact layout.exists_name canonical (mem_cells_ofSymbols.mp member)

end Formula

/-- Lines define the cells that have names. -/
theorem Sheet.exists_definition_iff :
    (∃ line body, definition line = .ok (cell, body)) ↔ ∃ name, CellName.canonical? name = some cell := by
  constructor
  · rintro ⟨line, body, defined⟩
    obtain ⟨name, _, named⟩ := definition_eq_ok_iff.mp defined
    exact ⟨_, named⟩
  · rintro ⟨name, named⟩
    have shown : ∀ c ∈ name.toList, isBlank c = false := fun c member =>
      (plain_of_inner ((CellName.canonical?_eq_some_iff.mp named).1.inner c member)).1
    refine ⟨name.toList ++ '=' :: [], "", definition_eq_ok_iff.mpr ⟨_, rfl, ?_⟩⟩
    rwa [trim_of_shown shown, String.ofList_toList]

/-- A whole text is taken for a name exactly when the scanner finds a name in it and nothing else,
and read as a formula it refers to the cell of that name, under the same canonical name, and to no
other. In telling so the letters of the text are counted, and what follows them is found behind as
many bytes. So sheets define just the cells that formulas refer to. -/
theorem CellName.named_iff_scanned_alone (text : String) :
    ((∃ cell, canonical? text = some cell) ↔
      ∃ here, scan text = [here] ∧ (∃ name, here.token = .cell name) ∧ here.lexeme = text) ∧
    (∀ cell, canonical? text = some cell →
      ∃ formula, Formula.ofText text = .ok formula ∧ formula.text = cell ∧ formula.cells = {cell}) ∧
    behindBytes? text (text.toList.takeWhile Char.isAlpha).length =
      some (String.ofList (text.toList.dropWhile Char.isAlpha)) ∧
    ∀ cell, (∃ line body, Sheet.definition line = .ok (cell, body)) ↔
      ∃ source formula, Formula.ofText source = .ok formula ∧ cell ∈ formula.cells := by
  have reference (text : String) (cell : String) (named : canonical? text = some cell) :
      ∃ formula, Formula.ofText text = .ok formula ∧ formula.text = cell ∧ formula.cells = {cell} := by
    obtain ⟨isName, rfl⟩ := canonical?_eq_some_iff.mp named
    exact ⟨_, ofText_of_isName isName, rfl, rfl⟩
  refine ⟨⟨?_, ?_⟩, reference text, behindBytes?_letters text, fun cell => ?_⟩
  · rintro ⟨cell, named⟩
    have isName := (canonical?_eq_some_iff.mp named).1
    exact ⟨_, scan_of_isName isName, ⟨text, rfl⟩, rfl⟩
  · rintro ⟨here, scanned, ⟨name, found⟩, whole⟩
    exact ⟨_, canonical?_eq_some_iff.mpr ⟨isName_of_scan scanned found whole, rfl⟩⟩
  · rw [Sheet.exists_definition_iff]
    constructor
    · rintro ⟨name, named⟩
      obtain ⟨formula, read, _, cells⟩ := reference name cell named
      exact ⟨name, formula, read, by simp [cells]⟩
    · rintro ⟨source, formula, read, member⟩
      exact Formula.exists_name_of_mem_cells read member

theorem CellName.named_iff_scanned_alone_zeros : canonical? "aB007" = some "AB7" ∧
    (∃ here, scan "aB007" = [here] ∧ (∃ name, here.token = .cell name) ∧ here.lexeme = "aB007") ∧
    (∃ formula, Formula.ofText "aB007" = .ok formula ∧ formula.text = "AB7" ∧
      formula.cells = {"AB7"}) ∧
    behindBytes? "aB007" 2 = some "007" ∧
    ∃ line body, Sheet.definition line = .ok ("AB7", body) := by
  have named : canonical? "aB007" = some "AB7" := by decide +kernel
  obtain ⟨sole, reference, digits, cells⟩ := named_iff_scanned_alone "aB007"
  obtain ⟨formula, read, text, own⟩ := reference _ named
  exact ⟨named, sole.mp ⟨_, named⟩, ⟨formula, read, text, own⟩, digits,
    (cells _).mpr ⟨_, formula, read, by simp [own]⟩⟩

end CellArithmetic
