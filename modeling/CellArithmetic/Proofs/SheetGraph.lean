import CellArithmetic.Proofs.GraphHistory
import CellArithmetic.Sheet
import Mathlib.Data.List.Nodup

/-! The graph of formulas that are added one after the other. A cell depends on the cells in
the formula that it is given last, whatever else is added in between; so the graph of a
sheet holds just the pairs that its own formulas say, and counts each of them once. -/
namespace CellArithmetic

namespace DependencyGraph

variable {graph : DependencyGraph} {entries : List (String × Formula)}

def addFormulas (graph : DependencyGraph) (entries : List (String × Formula)) : DependencyGraph :=
  entries.foldl (fun graph entry => graph.addFormula entry.1 entry.2) graph

/-- The formula that the last entry of a cell holds. -/
def lastFormula (entries : List (String × Formula)) (cell : String) : Option Formula :=
  entries.reverse.lookup cell

theorem lastFormula_cons (cell : String) (formula : Formula) (rest : List (String × Formula))
    (name : String) : lastFormula ((cell, formula) :: rest) name =
      (lastFormula rest name).or (if name = cell then some formula else none) := by
  rw [lastFormula, List.reverse_cons, List.lookup_append]
  by_cases same : name = cell
  · simp [lastFormula, same]
  · simp [lastFormula, same, List.lookup_cons, beq_false_of_ne same]

/-- With one entry for every cell, the last one is the only one. -/
theorem lastFormula_eq_some_iff (distinct : (entries.map Prod.fst).Nodup) :
    lastFormula entries cell = some formula ↔ (cell, formula) ∈ entries := by
  induction entries generalizing formula with
  | nil => simp [lastFormula]
  | cons entry rest ih =>
    obtain ⟨name, first⟩ := entry
    obtain ⟨fresh, others⟩ := List.nodup_cons.mp distinct
    rw [lastFormula_cons, List.mem_cons, Prod.mk.injEq]
    by_cases same : cell = name
    · subst same
      have absent (other : Formula) : (cell, other) ∉ rest :=
        fun member => fresh (List.mem_map.mpr ⟨_, member, rfl⟩)
      have none : lastFormula rest cell = none :=
        Option.eq_none_iff_forall_ne_some.mpr fun other found => absent other ((ih others).mp found)
      simp [none, absent, eq_comm]
    · simp [same, ih others]

theorem WellFormed.addFormulas (formed : graph.WellFormed) (entries : List (String × Formula)) :
    (graph.addFormulas entries).WellFormed := by
  have changes : graph.addFormulas entries =
      (entries.map fun entry => Change.addFormula entry.1 entry.2).foldl DependencyGraph.apply graph := by
    rw [List.foldl_map]
    rfl
  rw [changes]
  exact formed.foldl_apply _

theorem WellFormed.mem_pairs_addFormula (formed : graph.WellFormed) :
    (a, b) ∈ (graph.addFormula cell formula).pairs ↔
      if b = cell then a ∈ formula.cells else (a, b) ∈ graph.pairs := by
  have changed := formed.pairs_apply (.addFormula cell formula)
  rw [DependencyGraph.apply, Change.onPairs] at changed
  by_cases same : b = cell
  · simp [changed, same]
  · simp [changed, same, Ne.symm same]

/-- Behind all entries a name has the dependees of the last formula given for it, and if it
is given none, those that it had in front of them. -/
theorem WellFormed.mem_pairs_addFormulas (formed : graph.WellFormed) :
    (a, b) ∈ (graph.addFormulas entries).pairs ↔
      (lastFormula entries b).elim ((a, b) ∈ graph.pairs) (a ∈ ·.cells) := by
  induction entries generalizing graph with
  | nil => rfl
  | cons entry rest ih =>
    obtain ⟨cell, formula⟩ := entry
    have next : (graph.addFormula cell formula).WellFormed := formed.apply (.addFormula cell formula)
    have step : graph.addFormulas ((cell, formula) :: rest) =
        (graph.addFormula cell formula).addFormulas rest := rfl
    rw [step, ih next, lastFormula_cons]
    cases lastFormula rest b with
    | some other => rfl
    | none =>
      rw [Option.elim_none, formed.mem_pairs_addFormula, Option.none_or]
      by_cases same : b = cell
      · simp [same]
      · simp [same]

end DependencyGraph

namespace Sheet

open DependencyGraph

variable {sheet : Sheet}

theorem graph_eq_addFormulas (sheet : Sheet) : graph sheet = empty.addFormulas sheet.toList := rfl

theorem sorted_keys (sheet : Sheet) : (sheet.toList.map Prod.fst).Pairwise (· < ·) := by
  rw [Std.ExtTreeMap.map_fst_toList_eq_keys]
  exact Std.ExtTreeMap.ordered_keys.imp fun less => compare_lt_iff_lt.mp less

theorem nodup_keys (sheet : Sheet) : (sheet.toList.map Prod.fst).Nodup :=
  (sorted_keys sheet).imp fun less => ne_of_lt less

theorem wellFormed_graph (sheet : Sheet) : (graph sheet).WellFormed :=
  wellFormed_empty.addFormulas _

/-- The pairs of a sheet are those that the formulas of its cells say. -/
theorem mem_pairs_graph : (a, b) ∈ (graph sheet).pairs ↔
    ∃ formula, sheet[b]? = some formula ∧ a ∈ formula.cells := by
  have own : lastFormula sheet.toList b = sheet[b]? := by
    ext formula
    rw [lastFormula_eq_some_iff (nodup_keys sheet), Std.ExtTreeMap.mem_toList_iff_getElem?_eq_some]
  have none : (a, b) ∉ empty.pairs := by simp [pairs, empty]
  rw [graph_eq_addFormulas, wellFormed_empty.mem_pairs_addFormulas, own]
  cases sheet[b]? with
  | none => simp [none]
  | some formula => simp

theorem dependeesOf_graph (found : sheet[cell]? = some formula) :
    (graph sheet).dependeesOf cell = formula.cells := by
  apply Std.ExtTreeSet.ext_mem
  intro name
  simp [(wellFormed_graph sheet).mem_dependees, mem_pairs_graph, found]

/-- All pairs of a sheet, cell by cell. -/
def listedPairs (sheet : Sheet) : List (String × String) :=
  sheet.toList.flatMap fun entry => entry.2.cells.toList.map (·, entry.1)

theorem nodup_listedPairs (sheet : Sheet) : sheet.listedPairs.Nodup := by
  apply List.nodup_flatMap.mpr
  constructor
  · intro entry member
    apply List.Nodup.map (fun a b same => (Prod.mk.inj same).1)
    exact (sorted_toList entry.2.cells).imp fun less => ne_of_lt less
  · refine (List.pairwise_map.mp (nodup_keys sheet)).imp fun {first second} apart pair one two => ?_
    obtain ⟨_, _, rfl⟩ := List.mem_map.mp one
    obtain ⟨_, _, same⟩ := List.mem_map.mp two
    exact apart (Prod.mk.inj same).2.symm

theorem toFinset_listedPairs (sheet : Sheet) : sheet.listedPairs.toFinset = (graph sheet).pairs := by
  ext ⟨a, b⟩
  rw [List.mem_toFinset, mem_pairs_graph, listedPairs, List.mem_flatMap]
  constructor
  · intro ⟨⟨cell, formula⟩, member, inside⟩
    obtain ⟨name, own, same⟩ := List.mem_map.mp inside
    cases same
    exact ⟨formula, Std.ExtTreeMap.mem_toList_iff_getElem?_eq_some.mp member,
      Std.ExtTreeSet.mem_toList.mp own⟩
  · intro ⟨formula, found, own⟩
    exact ⟨(b, formula), Std.ExtTreeMap.mem_toList_iff_getElem?_eq_some.mpr found,
      List.mem_map_of_mem (Std.ExtTreeSet.mem_toList.mpr own)⟩

/-- Every pair is counted once. -/
theorem size_graph (sheet : Sheet) : (graph sheet).size = sheet.listedPairs.length := by
  rw [(wellFormed_graph sheet).counted, ← toFinset_listedPairs,
    List.toFinset_card_of_nodup (nodup_listedPairs sheet)]

end Sheet

end CellArithmetic
