import CellArithmetic.Proofs.SheetGraph
import CellArithmetic.Proofs.Streams
import Mathlib.Algebra.Ring.Nat

/-! What is told about the dependencies in a sheet. The answer is read off the graph of the
whole sheet, and is the same as if every cell were asked for the names in its own formula. -/
namespace CellArithmetic

open Report

namespace Sheet

/-- Cells, each with the names that stand in its formula. -/
abbrev Listing := List (String × List String)

/-- The listing has every cell of the sheet once and with just the names in its formula,
cells and names in their order. -/
structure Lists (sheet : Sheet) (listing : Listing) : Prop where
  cells_sorted : (listing.map Prod.fst).Pairwise (· < ·)
  cells : ∀ cell, cell ∈ listing.map Prod.fst ↔ cell ∈ sheet
  names_sorted : ∀ entry ∈ listing, entry.2.Pairwise (· < ·)
  names : ∀ entry ∈ listing, ∃ formula, sheet[entry.1]? = some formula ∧
    ∀ name, name ∈ entry.2 ↔ name ∈ formula.cells

namespace Listing

def line (color : Bool) (entry : String × List String) : String :=
  paint color bold entry.1 ++ " <- " ++
    if entry.2 = [] then paint color dimmed "(none)" else ", ".intercalate entry.2

def edges (listing : Listing) : Nat := (listing.map fun entry => entry.2.length).sum

def json (listing : Listing) : Json :=
  .object [("cells", .object (listing.map fun entry => (entry.1, .names entry.2))),
    ("size", .nat (edges listing))]

/-- The lines of output that tell a listing, or its JSON text. -/
def output (listing : Listing) (color asJson : Bool) : List String :=
  if asJson then [(json listing).text] else listing.map (line color)

end Listing

/-- The listing that asks every formula for its own names. -/
def listing (sheet : Sheet) : Listing :=
  sheet.toList.map fun entry => (entry.1, entry.2.cells.toList)

theorem map_fst_listing (sheet : Sheet) : sheet.listing.map Prod.fst = sheet.keys := by
  rw [listing, List.map_map, ← Std.ExtTreeMap.map_fst_toList_eq_keys]
  rfl

theorem lists_listing (sheet : Sheet) : sheet.Lists sheet.listing where
  cells_sorted := by
    rw [map_fst_listing, ← Std.ExtTreeMap.map_fst_toList_eq_keys]
    exact sorted_keys sheet
  cells cell := by rw [map_fst_listing, Std.ExtTreeMap.mem_keys]
  names_sorted entry member := by
    obtain ⟨⟨cell, formula⟩, _, rfl⟩ := List.mem_map.mp member
    exact DependencyGraph.sorted_toList formula.cells
  names entry member := by
    obtain ⟨⟨cell, formula⟩, inside, rfl⟩ := List.mem_map.mp member
    exact ⟨formula, Std.ExtTreeMap.mem_toList_iff_getElem?_eq_some.mp inside,
      fun name => Std.ExtTreeSet.mem_toList⟩

/-- Asking the graph for every cell gives the listing. -/
theorem map_dependeesOf_graph (sheet : Sheet) :
    sheet.keys.map (fun cell => (cell, ((graph sheet).dependeesOf cell).toList)) = sheet.listing := by
  rw [← Std.ExtTreeMap.map_fst_toList_eq_keys, List.map_map, listing]
  apply List.map_congr_left
  intro entry member
  have found := Std.ExtTreeMap.mem_toList_iff_getElem?_eq_some.mp member
  simp [dependeesOf_graph found]

theorem edges_listing (sheet : Sheet) : sheet.listing.edges = (graph sheet).size := by
  rw [size_graph, listedPairs, List.length_flatMap, Listing.edges, listing, List.map_map]
  simp only [List.length_map, Function.comp_def]

theorem length_listing (sheet : Sheet) : sheet.listing.length = sheet.size := by
  rw [listing, List.length_map, Std.ExtTreeMap.length_toList]

end Sheet

namespace Report

open Sheet

theorem dependencyLine_eq (color : Bool) (graph : DependencyGraph) (cell : String) :
    dependencyLine color graph cell = Listing.line color (cell, (graph.dependeesOf cell).toList) := by
  rw [dependencyLine, Listing.line]
  simp only [List.isEmpty_iff]

theorem map_dependencyLine_graph (color : Bool) (sheet : Sheet) :
    sheet.keys.map (dependencyLine color (graph sheet)) = sheet.listing.map (Listing.line color) := by
  rw [← map_dependeesOf_graph, List.map_map]
  apply List.map_congr_left
  intro cell _
  exact dependencyLine_eq color (graph sheet) cell

theorem dependencies_graph (sheet : Sheet) :
    dependencies (graph sheet) sheet.keys = sheet.listing.json := by
  rw [dependencies, Listing.json, edges_listing, ← map_dependeesOf_graph, List.map_map]
  rfl

theorem readSheet_toUTF8 {files : Files} (held : files path = .ok text.toUTF8) :
    readSheet files path = .ok text := by
  have decoded : String.fromUTF8? text.toUTF8 = some text := by
    exact dif_pos text.isValidUTF8
  simp only [readSheet, held, decoded]

section Deps

variable {console : Console} {files : Files} {path text : String} {noted : List Journal.Event} {sheet : Sheet}

theorem unlines_output (listing : Listing) (color json : Bool) : unlines (listing.output color json) =
    if json then listing.json.text ++ "\n"
    else String.join (listing.map fun entry => Listing.line color entry ++ "\n") := by
  cases json with
  | true => exact unlines_singleton _
  | false => exact congrArg String.join List.map_map

theorem writes_tellDependencies (console : Console) (sheet : Sheet) (json : Bool) :
    Writes (tellDependencies console (graph sheet) sheet.keys json) ()
      (console.told (sheet.listing.output console.color json)) [] := by
  rw [tellDependencies, Listing.output, ← map_dependencyLine_graph, ← dependencies_graph]
  cases json with
  | true => exact console.writes_json _
  | false => exact console.writes_lines _ _

/-- A sheet that can be read is told by its listing. -/
theorem deps_of_read (held : files path = .ok text.toUTF8) (read : Sheet.read text = (noted, .ok sheet))
    (json : Bool) :
    Writes (ofCommand console files (.deps path json)) success
      (console.told (sheet.listing.output console.color json))
      (console.shown (noted ++ [.graphBuilt sheet.listing.length sheet.listing.edges])) := by
  have told := (writes_tellDependencies console sheet json).ending success
  have built := (console.writes_note [.graphBuilt sheet.size (graph sheet).size]).andThen told
  rw [ofCommand, deps, readSheet_toUTF8 held, length_listing, edges_listing, ← console.shown_append]
  dsimp only
  rw [read]
  simpa only [List.nil_append, List.append_nil] using (console.writes_note noted).andThen built

/-- A text that cannot be read as a sheet is told of by its refusal. -/
theorem deps_of_refused (held : files path = .ok text.toUTF8) (refused : (Sheet.read text).2 = .error refusal)
    (json : Bool) :
    Writes (ofCommand console files (.deps path json)) failure []
      (console.shown (Sheet.read text).1 ++ [console.complaint refusal.message]) := by
  have whole : Sheet.read text = ((Sheet.read text).1, .error refusal) := Prod.ext rfl refused
  rw [ofCommand, deps, readSheet_toUTF8 held]
  dsimp only
  rw [whole]
  exact (console.writes_note _).andThen ((console.writes_complain _).ending failure)

end Deps

/-- The graph of a sheet that can be read has just the pairs that its formulas say. So every
cell is told once and with the names in its own formula, in text and in JSON alike, and the
size, which is also noted down, is the number of those names for all cells together. -/
theorem deps_tells_formulas {environment : Environment}
    (held : environment.files path = .ok text.toUTF8) (read : Sheet.read text = (noted, .ok sheet)) :
    (∀ dependee dependent, (dependee, dependent) ∈ (graph sheet).pairs ↔
      ∃ formula, sheet[dependent]? = some formula ∧ dependee ∈ formula.cells) ∧
    ∃ listing, sheet.Lists listing ∧ ∀ options json,
      Outcome.ofCommand environment options (.deps path json) = {
        code := success
        stdout :=
          if options.quiet then ""
          else if json then listing.json.text ++ "\n"
          else String.join (listing.map fun entry =>
            Listing.line (environment.color && !options.plain) entry ++ "\n")
        stderr := String.join ((environment.log.complaints ++
          environment.log.lines (if options.verbose then .debug else .warn)
            (noted ++ [.graphBuilt listing.length listing.edges])).map (· ++ "\n")) } := by
  refine ⟨fun _ _ => mem_pairs_graph, sheet.listing, lists_listing sheet, fun options json => ?_⟩
  rw [Outcome.ofCommand_of_writes (deps_of_read held read json), Console.unlines_told, unlines_output]
  rfl

/-- Cells that refer to each other and to themselves, told as text and as JSON, and noted down. -/
theorem deps_tells_formulas_mutual : ∃ (environment : Environment) (text : String) (noted : _)
    (sheet : Sheet), text = "b2 = A1+b2*a1\n\n# C\n A1=B2 - 3\nC3 = 7" ∧
    environment.files "sheet" = .ok text.toUTF8 ∧ Sheet.read text = (noted, .ok sheet) ∧
    sheet.keys = ["A1", "B2", "C3"] ∧
    (∀ dependee dependent, (dependee, dependent) ∈ (graph sheet).pairs ↔
      ∃ formula, sheet[dependent]? = some formula ∧ dependee ∈ formula.cells) ∧
    (∃ listing, sheet.Lists listing ∧ ∀ options json,
      Outcome.ofCommand environment options (.deps "sheet" json) = {
        code := success
        stdout :=
          if options.quiet then ""
          else if json then listing.json.text ++ "\n"
          else String.join (listing.map fun entry =>
            Listing.line (environment.color && !options.plain) entry ++ "\n")
        stderr := String.join ((environment.log.complaints ++
          environment.log.lines (if options.verbose then .debug else .warn)
            (noted ++ [.graphBuilt listing.length listing.edges])).map (· ++ "\n")) }) ∧
    Outcome.ofCommand environment ⟨false, false, true⟩ (.deps "sheet" false) =
      ⟨success, "A1 <- B2\nB2 <- A1, B2\nC3 <- (none)\n",
        "INFO dependency graph built cells=3 edges=3\n"⟩ ∧
    (Outcome.ofCommand environment ⟨false, false, true⟩ (.deps "sheet" true)).stdout =
      "\x7b\"cells\":\x7b\"A1\":[\"B2\"],\"B2\":[\"A1\",\"B2\"],\"C3\":[]\x7d,\"size\":3\x7d\n" := by
  let text := "b2 = A1+b2*a1\n\n# C\n A1=B2 - 3\nC3 = 7"
  have keys : (Sheet.read text).2.toOption.map (·.keys) = some ["A1", "B2", "C3"] := by decide +kernel
  cases read : Sheet.read text with
  | mk noted result =>
    cases result with
    | error refusal =>
      rw [read] at keys
      cases keys
    | ok sheet =>
      rw [read] at keys
      let environment : Environment := ⟨fun _ => .ok text.toUTF8, true, .ofSetting "info"⟩
      have held : environment.files "sheet" = .ok text.toUTF8 := rfl
      have told := deps_tells_formulas held read
      exact ⟨environment, text, noted, sheet, rfl, held, read, Option.some.inj keys, told.1, told.2,
        by decide +kernel, by decide +kernel⟩

end Report

end CellArithmetic
