import CellArithmetic.Proofs.Respacing
import CellArithmetic.Sheet
import Mathlib.Data.List.Perm.Basic
import Mathlib.Data.List.ReduceOption
import Mathlib.Data.String.Basic

/-! What the lines of a sheet tell. A line tells nothing or gives a cell its formula, and lines
can be read as a sheet exactly when every one tells its part and no two name the same cell;
the sheet then holds what they tell, in whatever order. -/
namespace CellArithmetic

open Text

namespace Text

theorem mem_dropWhile {s : List Char} (stays : p c = false) (member : c ∈ s) :
    c ∈ s.dropWhile p := by
  rw [← List.takeWhile_append_dropWhile (p := p) (l := s)] at member
  rcases List.mem_append.mp member with front | back
  · rw [List.mem_takeWhile_imp front] at stays
    cases stays
  · exact back

/-- Trimming takes away nothing but blanks. -/
theorem mem_trim {s : List Char} (shown : isBlank c = false) (member : c ∈ s) : c ∈ trim s :=
  List.mem_reverse.mpr (mem_dropWhile shown (List.mem_reverse.mpr (mem_dropWhile shown member)))

theorem trim_dropWhile (s : List Char) : trim (s.dropWhile isBlank) = trim s := by
  rw [trim, trim, List.dropWhile_idempotent]

/-- Around a character that is no blank, each side is trimmed at its own end. -/
theorem trim_append (shown : isBlank c = false) (s t : List Char) :
    trim (s ++ c :: t) = s.dropWhile isBlank ++ c :: t.rdropWhile isBlank := by
  rw [← rdropWhile_append shown]
  change ((s ++ c :: t).dropWhile isBlank).rdropWhile isBlank = _
  rw [List.dropWhile_append]
  by_cases blank : (s.dropWhile isBlank).isEmpty = true
  · simp [List.isEmpty_iff.mp blank, shown]
  · simp [blank]

theorem pieces_eq_splitOn (mark : Char) (s : List Char) : pieces mark s = s.splitOn mark := by
  induction s with
  | nil => rw [pieces, List.splitOn_nil]
  | cons c s ih =>
    rw [pieces, List.splitOn_cons_eq_if_modifyHead, ih]
    by_cases same : c = mark
    · simp [same]
    · cases found : s.splitOn mark with
      | nil => exact absurd found (List.splitOn_ne_nil mark s)
      | cons first rest => simp [same]

theorem not_mem_of_mem_pieces (member : piece ∈ pieces mark s) : mark ∉ piece := by
  induction s generalizing piece with
  | nil =>
    rw [pieces, List.mem_singleton] at member
    simp [member]
  | cons c s ih =>
    rw [pieces] at member
    split at member
    · rcases List.mem_cons.mp member with rfl | behind
      · exact List.not_mem_nil
      · exact ih behind
    · rename_i other
      split at member
      · rename_i none
        exact absurd none (pieces_ne_nil mark s)
      · rename_i first rest found
        rw [found] at ih
        rcases List.mem_cons.mp member with rfl | behind
        · exact List.not_mem_cons_of_ne_of_not_mem (Ne.symm other) (ih List.mem_cons_self)
        · exact ih (List.mem_cons_of_mem first behind)

end Text

namespace CellName

/-- Whatever stands in a name of a cell, apart from blanks around it, can stand inside it. -/
theorem inner_of_canonical? (named : canonical? (String.ofList (trim name)) = some cell)
    (member : c ∈ name) (shown : isBlank c = false) : isInner c = true := by
  have whole := (canonical?_eq_some_iff.mp named).1
  rw [String.toList_ofList] at whole
  exact whole.inner c (mem_trim shown member)

end CellName

namespace Sheet

/-- The lines of a text. A carriage return in front of a line feed stays with its line, at
whose end it is a blank like others. -/
def splitLines (text : String) : List (List Char) := pieces '\n' text.toList

/-- The lines make up the text, with line feeds between them and none inside. -/
structure MakeUp (lines : List (List Char)) (text : String) : Prop where
  joined : ['\n'].intercalate lines = text.toList
  parted : ∀ line ∈ lines, '\n' ∉ line

theorem splitLines_makeUp (text : String) : MakeUp (splitLines text) text where
  joined := by rw [splitLines, pieces_eq_splitOn, List.intercalate_splitOn]
  parted _ member := not_mem_of_mem_pieces member

/-- Blank lines and comments. -/
def Idle (line : List Char) : Prop := trim line = [] ∨ (trim line).head? = some '#'

/-- What a line tells: nothing, or the formula of a cell. -/
inductive Tells (line : List Char) : Option (String × Formula) → Prop where
  | nothing (idle : Idle line) : Tells line none
  | entry (whole : trim line = name ++ '=' :: body)
      (named : CellName.canonical? (String.ofList (trim name)) = some cell)
      (read : Formula.ofText (String.ofList body) = .ok formula) : Tells line (some (cell, formula))

theorem isRelevant_iff : isRelevant (trim line) = true ↔ ¬Idle line := by
  rw [isRelevant, Idle, Bool.and_eq_true, not_or, bne_iff_ne, Bool.not_eq_true', List.isEmpty_eq_false_iff]

theorem definition_of_undivided (undivided : '=' ∉ line) :
    definition line = .error (.malformed (String.ofList line)) := by
  have plain : ∀ c ∈ line, (c != '=') = true := fun c member =>
    bne_iff_ne.mpr (ne_of_mem_of_not_mem member undivided)
  simp only [definition, List.dropWhile_eq_nil_iff.mpr plain]

theorem parts_of_divided (first : '=' ∉ name) (body : List Char) :
    (name ++ '=' :: body).takeWhile (· != '=') = name ∧
      (name ++ '=' :: body).dropWhile (· != '=') = '=' :: body := by
  have plain : ∀ c ∈ name, (c != '=') = true := fun c member =>
    bne_iff_ne.mpr (ne_of_mem_of_not_mem member first)
  have stops : Stops (· != '=') ('=' :: body) := stops_cons.mpr rfl
  exact ⟨takeWhile_append plain stops, dropWhile_append plain stops⟩

theorem definition_of_divided (first : '=' ∉ name) (body : List Char) :
    definition (name ++ '=' :: body) = (CellName.canonical? (String.ofList (trim name))).elim
      (.error (.invalidCell (String.ofList (trim name)))) fun cell => .ok (cell, String.ofList body) := by
  simp only [definition, parts_of_divided first]
  cases CellName.canonical? (String.ofList (trim name)) <;> rfl

/-- No name of a cell holds an equals sign, so the first one in a definition stands behind it. -/
theorem not_mem_of_named (named : CellName.canonical? (String.ofList (trim name)) = some cell) :
    '=' ∉ name := by
  intro member
  cases CellName.inner_of_canonical? named member rfl

theorem definition_eq_ok_iff : definition line = .ok (cell, body) ↔
    ∃ name, line = name ++ '=' :: body.toList ∧
      CellName.canonical? (String.ofList (trim name)) = some cell := by
  constructor
  · intro defined
    by_cases divided : '=' ∈ line
    · obtain ⟨name, rest, rfl, first⟩ := List.eq_append_cons_of_mem divided
      rw [definition_of_divided first] at defined
      cases named : CellName.canonical? (String.ofList (trim name)) with
      | none =>
        rw [named] at defined
        cases defined
      | some own =>
        rw [named] at defined
        cases defined
        exact ⟨name, by rw [String.toList_ofList], named⟩
    · rw [definition_of_undivided divided] at defined
      cases defined
  · rintro ⟨name, rfl, named⟩
    rw [definition_of_divided (not_mem_of_named named), named, Option.elim_some, String.ofList_toList]

theorem Tells.relevant (told : Tells line (some (cell, formula))) : ¬Idle line := by
  cases told with
  | @entry name body _ _ whole named =>
    intro idle
    rw [Idle, whole] at idle
    rcases idle with none | comment
    · simp at none
    · cases name with
      | nil => cases comment
      | cons c name =>
        cases comment
        cases CellName.inner_of_canonical? named List.mem_cons_self rfl

theorem tells_entry_iff : Tells line (some (cell, formula)) ↔ ∃ body,
    definition (trim line) = .ok (cell, body) ∧ Formula.ofText body = .ok formula := by
  constructor
  · intro told
    cases told with
    | entry whole named read =>
      exact ⟨_, definition_eq_ok_iff.mpr ⟨_, by rw [whole, String.toList_ofList], named⟩, read⟩
  · intro ⟨body, defined, read⟩
    obtain ⟨name, whole, named⟩ := definition_eq_ok_iff.mp defined
    exact .entry whole named (by rwa [String.ofList_toList])

/-- A line tells one thing only. -/
theorem Tells.unique (one : Tells line first) (two : Tells line second) : first = second := by
  cases first with
  | none =>
    cases one with
    | nothing idle =>
      cases second with
      | none => rfl
      | some entry => exact absurd idle two.relevant
  | some entry =>
    cases second with
    | none =>
      cases two with
      | nothing idle => exact absurd idle one.relevant
    | some other =>
      obtain ⟨body, defined, read⟩ := tells_entry_iff.mp one
      obtain ⟨body', defined', read'⟩ := tells_entry_iff.mp two
      obtain ⟨cell, formula⟩ := entry
      obtain ⟨cell', formula'⟩ := other
      cases defined.symm.trans defined'
      cases read.symm.trans read'
      rfl

/-- The blanks at the ends of a line tell nothing. -/
theorem Tells.of_trim_eq (told : Tells line said) (same : trim line = trim other) :
    Tells other said := by
  cases told with
  | nothing idle =>
    rw [Idle, same] at idle
    exact .nothing idle
  | entry whole named read => exact .entry (same.symm.trans whole) named read

/-- A line that should define a cell, parted at its first equals sign. -/
structure Divides (line name body : List Char) : Prop where
  relevant : ¬Idle line
  whole : trim line = name ++ '=' :: body
  first : '=' ∉ name

/-- A line is parted in one way. -/
theorem Divides.unique (one : Divides line name body) (two : Divides line name' body') :
    name = name' ∧ body = body' := by
  have parts := parts_of_divided one.first body
  have parts' := parts_of_divided two.first body'
  rw [← one.whole] at parts
  rw [← two.whole] at parts'
  exact ⟨parts.1.symm.trans parts'.1, List.tail_eq_of_cons_eq (parts.2.symm.trans parts'.2)⟩

theorem exists_divides (relevant : ¬Idle line) (divided : '=' ∈ trim line) :
    ∃ name body, Divides line name body := by
  obtain ⟨name, body, whole, first⟩ := List.eq_append_cons_of_mem divided
  exact ⟨name, body, relevant, whole, first⟩

theorem Divides.divided (divides : Divides line name body) : '=' ∈ trim line := by
  simp [divides.whole]

theorem Divides.definition (divides : Divides line name body) : definition (trim line) =
    (CellName.canonical? (String.ofList (trim name))).elim
      (.error (.invalidCell (String.ofList (trim name)))) fun cell => .ok (cell, String.ofList body) := by
  rw [divides.whole, definition_of_divided divides.first]

theorem Tells.divides (told : Tells line (some (cell, formula))) : ∃ name body, Divides line name body ∧
    CellName.canonical? (String.ofList (trim name)) = some cell ∧
    Formula.ofText (String.ofList body) = .ok formula := by
  have relevant := told.relevant
  cases told with
  | entry whole named read => exact ⟨_, _, ⟨relevant, whole, not_mem_of_named named⟩, named, read⟩

/-- What is wrong with a line, where some names of cells are taken. -/
inductive Flaw (taken : String → Prop) (line : List Char) : Fault → Prop where
  | malformed (relevant : ¬Idle line) (undivided : '=' ∉ trim line) :
      Flaw taken line (.malformed (String.ofList (trim line)))
  | invalidCell (divides : Divides line name body)
      (unnamed : CellName.canonical? (String.ofList (trim name)) = none) :
      Flaw taken line (.invalidCell (String.ofList (trim name)))
  | duplicate (divides : Divides line name body)
      (named : CellName.canonical? (String.ofList (trim name)) = some cell) (again : taken cell) :
      Flaw taken line (.duplicate cell)
  | invalidFormula (divides : Divides line name body)
      (named : CellName.canonical? (String.ofList (trim name)) = some cell) (fresh : ¬taken cell)
      (refused : Formula.ofText (String.ofList body) = .error violation) :
      Flaw taken line (.invalidFormula violation)

theorem Flaw.relevant (flaw : Flaw taken line fault) : ¬Idle line := by
  cases flaw with
  | malformed relevant => exact relevant
  | invalidCell divides | duplicate divides | invalidFormula divides => exact divides.relevant

/-- The rest of the checks, on a line with an equals sign. -/
theorem Divides.flaw_iff (divides : Divides line name body) : Flaw taken line fault ↔
    CellName.canonical? (String.ofList (trim name)) = none ∧
      fault = .invalidCell (String.ofList (trim name)) ∨
    ∃ cell, CellName.canonical? (String.ofList (trim name)) = some cell ∧
      (taken cell ∧ fault = .duplicate cell ∨
        ¬taken cell ∧ ∃ violation, Formula.ofText (String.ofList body) = .error violation ∧
          fault = .invalidFormula violation) := by
  constructor
  · intro flaw
    cases flaw with
    | malformed _ undivided => exact absurd divides.divided undivided
    | invalidCell other unnamed =>
      obtain ⟨rfl, rfl⟩ := divides.unique other
      exact .inl ⟨unnamed, rfl⟩
    | duplicate other named again =>
      obtain ⟨rfl, rfl⟩ := divides.unique other
      exact .inr ⟨_, named, .inl ⟨again, rfl⟩⟩
    | invalidFormula other named fresh refused =>
      obtain ⟨rfl, rfl⟩ := divides.unique other
      exact .inr ⟨_, named, .inr ⟨fresh, _, refused, rfl⟩⟩
  · rintro (⟨unnamed, rfl⟩ | ⟨cell, named, ⟨again, rfl⟩ | ⟨fresh, violation, refused, rfl⟩⟩)
    · exact .invalidCell divides unnamed
    · exact .duplicate divides named again
    · exact .invalidFormula divides named fresh refused

/-- Nothing is wrong with a line that gives its formula to a cell not taken. -/
theorem Tells.not_flaw (told : Tells line (some (cell, formula))) (fresh : ¬taken cell) :
    ¬Flaw taken line fault := by
  obtain ⟨name, body, divides, named, read⟩ := told.divides
  simp [divides.flaw_iff, named, read, fresh]

/-- A line is passed over, or something is wrong with it, or it gives its formula to a cell not taken. -/
theorem idle_or_flaw_or_tells (taken : String → Prop) (line : List Char) :
    Idle line ∨ (∃ fault, Flaw taken line fault) ∨
    ∃ cell formula, Tells line (some (cell, formula)) ∧ ¬taken cell := by
  by_cases idle : Idle line
  · exact .inl idle
  by_cases divided : '=' ∈ trim line
  · obtain ⟨name, body, divides⟩ := exists_divides idle divided
    cases named : CellName.canonical? (String.ofList (trim name)) with
    | none => exact .inr (.inl ⟨_, .invalidCell divides named⟩)
    | some cell =>
      by_cases again : taken cell
      · exact .inr (.inl ⟨_, .duplicate divides named again⟩)
      · cases read : Formula.ofText (String.ofList body) with
        | error violation => exact .inr (.inl ⟨_, .invalidFormula divides named again read⟩)
        | ok formula => exact .inr (.inr ⟨cell, formula, .entry divides.whole named read, again⟩)
  · exact .inr (.inl ⟨_, .malformed idle divided⟩)

theorem readLines_of_idle (idle : Idle line) :
    readLines sheet number (line :: rest) = readLines sheet (number + 1) rest := by
  rw [readLines, if_neg (mt isRelevant_iff.mp (not_not.mpr idle))]

/-- Reading stops at a line with a flaw. -/
theorem readLines_of_flaw {sheet : Sheet} (flaw : Flaw (· ∈ sheet) line fault) :
    (readLines sheet number (line :: rest)).2 = .error ⟨number, fault⟩ := by
  have relevant := isRelevant_iff.mpr flaw.relevant
  cases flaw with
  | malformed _ undivided =>
    simp only [readLines, if_pos relevant, definition_of_undivided undivided]
  | invalidCell divides unnamed =>
    have defined := divides.definition
    rw [unnamed, Option.elim_none] at defined
    simp only [readLines, if_pos relevant, defined]
  | duplicate divides named again =>
    have defined := divides.definition
    rw [named, Option.elim_some] at defined
    have contained := Std.ExtTreeMap.contains_iff_mem.mpr again
    simp only [readLines, if_pos relevant, defined, if_pos contained]
  | invalidFormula divides named fresh refused =>
    have defined := divides.definition
    rw [named, Option.elim_some] at defined
    have contained := mt Std.ExtTreeMap.contains_iff_mem.mp fresh
    simp only [readLines, if_pos relevant, defined, if_neg contained, refused]

/-- Reading takes up what a line tells of a cell that is not there yet. -/
theorem readLines_of_tells {sheet : Sheet} (told : Tells line (some (cell, formula)))
    (fresh : cell ∉ sheet) : (readLines sheet number (line :: rest)).2 =
      (readLines (sheet.insert cell formula) (number + 1) rest).2 := by
  have relevant := isRelevant_iff.mpr told.relevant
  obtain ⟨body, defined, parsed⟩ := tells_entry_iff.mp told
  rw [← Std.ExtTreeMap.contains_iff_mem] at fresh
  simp only [readLines, if_pos relevant, defined, if_neg fresh, parsed]

/-- Reading one line more. -/
theorem readLines_cons_eq_ok_iff {sheet : Sheet} : (readLines sheet number (raw :: rest)).2 = .ok result ↔
    Idle raw ∧ (readLines sheet (number + 1) rest).2 = .ok result ∨
    ∃ cell formula, Tells raw (some (cell, formula)) ∧ cell ∉ sheet ∧
      (readLines (sheet.insert cell formula) (number + 1) rest).2 = .ok result := by
  obtain idle | ⟨fault, flaw⟩ | ⟨cell, formula, told, fresh⟩ := idle_or_flaw_or_tells (· ∈ sheet) raw
  · rw [readLines_of_idle idle]
    refine ⟨fun read => .inl ⟨idle, read⟩, ?_⟩
    rintro (⟨_, read⟩ | ⟨cell, formula, told, _⟩)
    · exact read
    · exact absurd idle told.relevant
  · rw [readLines_of_flaw flaw]
    refine ⟨by simp, ?_⟩
    rintro (⟨idle, _⟩ | ⟨cell, formula, told, fresh, _⟩)
    · exact absurd idle flaw.relevant
    · exact absurd flaw (told.not_flaw fresh)
  · rw [readLines_of_tells told fresh]
    refine ⟨fun read => .inr ⟨cell, formula, told, fresh, read⟩, ?_⟩
    rintro (⟨idle, _⟩ | ⟨cell, formula, told', _, read⟩)
    · exact absurd idle told.relevant
    · cases told.unique told'
      exact read

theorem mem_insert_iff {sheet : Sheet} (fresh : cell ∉ sheet) :
    (sheet.insert cell formula)[other]? = some held ↔
      (other, held) = (cell, formula) ∨ sheet[other]? = some held := by
  rw [Std.ExtTreeMap.getElem?_insert, Prod.mk.injEq]
  by_cases same : cell = other
  · subst same
    simp [Std.ExtTreeMap.getElem?_eq_none fresh, eq_comm]
  · simp [same, Ne.symm same]

/-- What comes of reading lines into a sheet: it holds what they tell besides, no two of them
name the same cell, and none names a cell that is there already. -/
def Extends (sheet : Sheet) (lines : List (List Char)) (result : Sheet) : Prop :=
  ∃ said, List.Forall₂ Tells lines said ∧ (said.reduceOption.map Prod.fst).Nodup ∧
    (∀ entry ∈ said.reduceOption, entry.1 ∉ sheet) ∧
    ∀ cell formula, result[cell]? = some formula ↔
      (cell, formula) ∈ said.reduceOption ∨ sheet[cell]? = some formula

theorem extends_nil_iff {sheet result : Sheet} : Extends sheet [] result ↔ sheet = result := by
  constructor
  · intro ⟨said, all, _, _, holds⟩
    cases all
    apply Std.ExtTreeMap.ext_getElem?
    intro cell
    ext formula
    simp [holds]
  · rintro rfl
    exact ⟨[], .nil, .nil, by simp, by simp⟩

theorem extends_idle_cons_iff {sheet result : Sheet} (idle : Idle line) :
    Extends sheet (line :: rest) result ↔ Extends sheet rest result := by
  constructor
  · intro ⟨said, all, more⟩
    cases all with
    | cons told all =>
      cases told.unique (.nothing idle)
      exact ⟨_, all, more⟩
  · intro ⟨said, all, more⟩
    exact ⟨none :: said, .cons (.nothing idle) all, more⟩

/-- Entries have their place beside one more when they have one and do not name its cell. -/
theorem apart_insert_iff {sheet : Sheet} {entries : List (String × Formula)} :
    (∀ entry ∈ entries, entry.1 ∉ sheet.insert cell formula) ↔
      cell ∉ entries.map Prod.fst ∧ ∀ entry ∈ entries, entry.1 ∉ sheet := by
  constructor
  · intro apart
    have parts : ∀ entry ∈ entries, cell ≠ entry.1 ∧ entry.1 ∉ sheet := by
      intro entry member
      simpa [Std.ExtTreeMap.mem_insert] using apart entry member
    refine ⟨fun again => ?_, fun entry member => (parts entry member).2⟩
    obtain ⟨entry, member, same⟩ := List.mem_map.mp again
    exact (parts entry member).1 same.symm
  · intro ⟨once, apart⟩ entry member
    have other : cell ≠ entry.1 := by
      rintro rfl
      exact once (List.mem_map.mpr ⟨entry, member, rfl⟩)
    simpa [Std.ExtTreeMap.mem_insert, other] using apart entry member

theorem extends_entry_cons_iff {sheet result : Sheet} (told : Tells line (some (cell, formula))) :
    Extends sheet (line :: rest) result ↔
      cell ∉ sheet ∧ Extends (sheet.insert cell formula) rest result := by
  constructor
  · intro ⟨said, all, distinct, apart, holds⟩
    cases all with
    | cons first all =>
      cases first.unique told
      rw [List.reduceOption_cons_of_some] at distinct apart holds
      obtain ⟨once, distinct⟩ := List.nodup_cons.mp distinct
      obtain ⟨fresh, apart⟩ := List.forall_mem_cons.mp apart
      refine ⟨fresh, _, all, distinct, apart_insert_iff.mpr ⟨once, apart⟩, fun name held => ?_⟩
      rw [holds, mem_insert_iff fresh, List.mem_cons, or_left_comm, or_assoc]
  · intro ⟨fresh, said, all, distinct, apart, holds⟩
    obtain ⟨once, apart⟩ := apart_insert_iff.mp apart
    refine ⟨some (cell, formula) :: said, .cons told all, ?_, ?_, fun name held => ?_⟩
    · exact List.nodup_cons.mpr ⟨once, distinct⟩
    · exact List.forall_mem_cons.mpr ⟨fresh, apart⟩
    · rw [holds, mem_insert_iff fresh, List.reduceOption_cons_of_some, List.mem_cons, or_left_comm,
        or_assoc]

/-- Lines are read into a sheet exactly when it can take up what they tell. -/
theorem readLines_eq_ok_iff {sheet result : Sheet} :
    (readLines sheet number lines).2 = .ok result ↔ Extends sheet lines result := by
  induction lines generalizing sheet number with
  | nil => rw [extends_nil_iff, readLines, Except.ok.injEq]
  | cons raw rest ih =>
    rw [readLines_cons_eq_ok_iff]
    constructor
    · rintro (⟨idle, read⟩ | ⟨cell, formula, told, fresh, read⟩)
      · exact (extends_idle_cons_iff idle).mpr (ih.mp read)
      · exact (extends_entry_cons_iff told).mpr ⟨fresh, ih.mp read⟩
    · intro adds
      have ⟨_, all, _⟩ := adds
      cases all with
      | cons told _ =>
        cases told with
        | nothing idle => exact .inl ⟨idle, ih.mpr ((extends_idle_cons_iff idle).mp adds)⟩
        | entry whole named parsed =>
          have told := Tells.entry whole named parsed
          obtain ⟨fresh, more⟩ := (extends_entry_cons_iff told).mp adds
          exact .inr ⟨_, _, told, fresh, ih.mpr more⟩

/-- The sheet that lines define: each tells its part, no two name the same cell, and the
sheet holds what is told. -/
def Defines (lines : List (List Char)) (sheet : Sheet) : Prop :=
  ∃ said, List.Forall₂ Tells lines said ∧ (said.reduceOption.map Prod.fst).Nodup ∧
    ∀ cell formula, sheet[cell]? = some formula ↔ (cell, formula) ∈ said.reduceOption

/-- Lines define what comes of reading them into an empty sheet. -/
theorem extends_empty_iff {sheet : Sheet} : Extends ∅ lines sheet ↔ Defines lines sheet := by
  simp [Extends, Defines]

theorem mem_said_iff (all : List.Forall₂ Tells lines said) :
    told ∈ said ↔ ∃ line ∈ lines, Tells line told := by
  induction all with
  | nil => simp
  | @cons line first _ _ own _ ih =>
    have same : told = first ↔ Tells line told :=
      ⟨fun same => same ▸ own, fun tells => tells.unique own⟩
    rw [List.mem_cons, ih, same, List.exists_mem_cons_iff]

/-- The sheet holds what the lines tell, each by itself. -/
theorem Defines.getElem?_eq_some_iff (defines : Defines lines sheet) : sheet[cell]? = some formula ↔
    ∃ line ∈ lines, Tells line (some (cell, formula)) := by
  obtain ⟨said, all, _, holds⟩ := defines
  rw [holds, List.reduceOption_mem_iff, mem_said_iff all]

/-- The order of the lines is of no account. -/
theorem Defines.perm (defines : Defines lines sheet) (same : others.Perm lines) :
    Defines others sheet := by
  obtain ⟨said, all, distinct, holds⟩ := defines
  obtain ⟨moved, all, perm⟩ := List.perm_comp_forall₂ same all
  have entries : moved.reduceOption.Perm said.reduceOption := perm.filterMap id
  refine ⟨moved, all, (entries.map Prod.fst).nodup_iff.mpr distinct, fun cell formula => ?_⟩
  rw [holds, entries.mem_iff]

theorem defines_idle_cons_iff (idle : Idle line) :
    Defines (line :: lines) sheet ↔ Defines lines sheet := by
  rw [← extends_empty_iff, extends_idle_cons_iff idle, extends_empty_iff]

/-- A line can give way to another one that tells the same. -/
theorem Defines.replace (defines : Defines (line :: lines) sheet)
    (same : ∀ told, Tells line told → Tells other told) : Defines (other :: lines) sheet := by
  obtain ⟨said, all, distinct, holds⟩ := defines
  cases all with
  | cons first all => exact ⟨_, .cons (same _ first) all, distinct, holds⟩

/-- A text can be read as a sheet exactly when its lines define one. -/
theorem read_eq_ok_iff {sheet : Sheet} : (read text).2 = .ok sheet ↔ Defines (splitLines text) sheet := by
  exact readLines_eq_ok_iff.trans extends_empty_iff

end Sheet

end CellArithmetic
