import CellArithmetic.Proofs.GraphPairs
import Mathlib.Data.Finset.SDiff
import Mathlib.Data.String.Basic

/-! Every history of a dependency graph. A change is a run of single edits, planned on the
graph as it is before the change; so what every edit keeps holds of every graph that a
history reaches, and such a graph behaves as the set of its pairs. -/
namespace CellArithmetic.DependencyGraph

variable {graph : DependencyGraph}

/-- Adding or removing one pair of a dependee and a dependent. -/
inductive Edit where
  | add (pair : String × String)
  | remove (pair : String × String)

inductive Change where
  | add (dependee dependent : String)
  | remove (dependee dependent : String)
  | replaceDependents (node : String) (names : List String)
  | replaceDependees (node : String) (names : List String)
  | addFormula (cell : String) (formula : Formula)

def edit (graph : DependencyGraph) : Edit → DependencyGraph
  | .add pair => graph.add pair.1 pair.2
  | .remove pair => graph.remove pair.1 pair.2

def apply (graph : DependencyGraph) : Change → DependencyGraph
  | .add dependee dependent => graph.add dependee dependent
  | .remove dependee dependent => graph.remove dependee dependent
  | .replaceDependents node names => graph.replaceDependents node names
  | .replaceDependees node names => graph.replaceDependees node names
  | .addFormula cell formula => graph.addFormula cell formula

/-- The graphs that some history makes of the empty one. -/
def Reachable (graph : DependencyGraph) : Prop :=
  ∃ changes : List Change, changes.foldl apply empty = graph

/-- Removes the pairs of the old names, and then adds the pairs of the new ones. -/
def Edit.rewire (pair : String → String × String) (old names : List String) : List Edit :=
  old.map (fun name => .remove (pair name)) ++ names.map fun name => .add (pair name)

/-- The single edits of a change, in order. -/
def Change.edits (graph : DependencyGraph) : Change → List Edit
  | .add dependee dependent => [.add (dependee, dependent)]
  | .remove dependee dependent => [.remove (dependee, dependent)]
  | .replaceDependents node names => Edit.rewire (node, ·) (graph.dependentsOf node).toList names
  | .replaceDependees node names => Edit.rewire (·, node) (graph.dependeesOf node).toList names
  | .addFormula cell formula =>
    Edit.rewire (·, cell) (graph.dependeesOf cell).toList formula.cells.toList

theorem apply_eq_foldl_edit (graph : DependencyGraph) (change : Change) :
    graph.apply change = (change.edits graph).foldl edit graph := by
  cases change with
  | add | remove => rfl
  | replaceDependents | replaceDependees | addFormula =>
    simp only [Change.edits, Edit.rewire, List.foldl_append, List.foldl_map]
    rfl

theorem WellFormed.edit (formed : graph.WellFormed) (one : Edit) : (graph.edit one).WellFormed := by
  cases one with
  | add => exact formed.add
  | remove => exact formed.remove

theorem WellFormed.foldl_edit (formed : graph.WellFormed) (edits : List Edit) :
    (edits.foldl DependencyGraph.edit graph).WellFormed := by
  induction edits generalizing graph with
  | nil => exact formed
  | cons one rest ih => exact ih (formed.edit one)

theorem WellFormed.apply (formed : graph.WellFormed) (change : Change) :
    (graph.apply change).WellFormed := by
  rw [apply_eq_foldl_edit]
  exact formed.foldl_edit _

theorem WellFormed.foldl_apply (formed : graph.WellFormed) (changes : List Change) :
    (changes.foldl DependencyGraph.apply graph).WellFormed := by
  induction changes generalizing graph with
  | nil => exact formed
  | cons change rest ih => exact ih (formed.apply change)

theorem Reachable.wellFormed (reached : Reachable graph) : graph.WellFormed := by
  obtain ⟨changes, rfl⟩ := reached
  exact wellFormed_empty.foldl_apply changes

/-- An edit on a size that cannot fall below zero: there is no graph where it would. -/
def editChecked (graph : DependencyGraph) : Edit → Option DependencyGraph
  | .add pair => some (graph.add pair.1 pair.2)
  | .remove pair =>
    if graph.has pair.1 pair.2 = true ∧ graph.size = 0 then none
    else some (graph.remove pair.1 pair.2)

def applyChecked (graph : DependencyGraph) (change : Change) : Option DependencyGraph :=
  (change.edits graph).foldlM editChecked graph

theorem WellFormed.editChecked_eq (formed : graph.WellFormed) (one : Edit) :
    graph.editChecked one = some (graph.edit one) := by
  cases one with
  | add => rfl
  | remove pair =>
    refine if_neg fun ⟨present, spent⟩ => ?_
    exact absurd spent (Nat.pos_iff_ne_zero.mp (formed.size_pos (has_iff.mp present)))

theorem WellFormed.foldlM_editChecked (formed : graph.WellFormed) (edits : List Edit) :
    edits.foldlM editChecked graph = some (edits.foldl DependencyGraph.edit graph) := by
  induction edits generalizing graph with
  | nil => rfl
  | cons one rest ih =>
    rw [List.foldlM_cons, formed.editChecked_eq one, List.foldl_cons]
    exact ih (formed.edit one)

/-- In a graph that any history reaches the two indexes hold the same pairs, no name is
bound to nothing, the size is the number of pairs, and no further change takes the size
below zero on its way. -/
theorem reachable_indexes_agree (reached : Reachable graph) :
    (∀ a b, b ∈ graph.dependents.names a ↔ a ∈ graph.dependees.names b) ∧
    (∀ key : String, graph.dependents[key]? ≠ some ∅ ∧ graph.dependees[key]? ≠ some ∅) ∧
    graph.size = graph.pairs.card ∧
    ∀ change, graph.applyChecked change = some (graph.apply change) := by
  have formed := reached.wellFormed
  refine ⟨formed.mirrored, fun key => ⟨formed.dependents_pruned key, formed.dependees_pruned key⟩,
    formed.counted, fun change => ?_⟩
  rw [applyChecked, formed.foldlM_editChecked, apply_eq_foldl_edit]

theorem reachable_indexes_agree_self_loop : ∃ graph, Reachable graph ∧
    graph.has "A1" "A1" = true ∧ graph.size = 2 ∧
    (∀ a b, b ∈ graph.dependents.names a ↔ a ∈ graph.dependees.names b) ∧
    (∀ key : String, graph.dependents[key]? ≠ some ∅ ∧ graph.dependees[key]? ≠ some ∅) ∧
    graph.size = graph.pairs.card ∧
    ∀ change, graph.applyChecked change = some (graph.apply change) := by
  have reached : Reachable ((empty.add "A1" "A1").replaceDependents "A1" ["B2", "A1", "B2"]) :=
    ⟨[.add "A1" "A1", .replaceDependents "A1" ["B2", "A1", "B2"]], rfl⟩
  exact ⟨_, reached, by decide +kernel, by decide +kernel, reachable_indexes_agree reached⟩

/-- What a change does to a set of pairs. -/
def Change.onPairs (held : Finset (String × String)) : Change → Finset (String × String)
  | .add dependee dependent => held ∪ {(dependee, dependent)}
  | .remove dependee dependent => held \ {(dependee, dependent)}
  | .replaceDependents node names =>
    {pair ∈ held | pair.1 ≠ node} ∪ (names.map (node, ·)).toFinset
  | .replaceDependees node names =>
    {pair ∈ held | pair.2 ≠ node} ∪ (names.map (·, node)).toFinset
  | .addFormula cell formula =>
    {pair ∈ held | pair.2 ≠ cell} ∪ (formula.cells.toList.map (·, cell)).toFinset

theorem pairs_foldl_add (graph : DependencyGraph) (names : List String)
    (pair : String → String × String) :
    ((names.map fun name => Edit.add (pair name)).foldl edit graph).pairs =
      graph.pairs ∪ (names.map pair).toFinset := by
  induction names generalizing graph with
  | nil => simp
  | cons name rest ih =>
    rw [List.map_cons, List.foldl_cons, ih, edit, pairs_add, List.map_cons, List.toFinset_cons,
      Finset.insert_union, Finset.union_insert]

theorem pairs_foldl_remove (graph : DependencyGraph) (names : List String)
    (pair : String → String × String) :
    ((names.map fun name => Edit.remove (pair name)).foldl edit graph).pairs =
      graph.pairs \ (names.map pair).toFinset := by
  induction names generalizing graph with
  | nil => simp
  | cons name rest ih =>
    rw [List.map_cons, List.foldl_cons, ih, edit, pairs_remove, List.map_cons, List.toFinset_cons,
      Finset.sdiff_insert, Finset.erase_sdiff_comm]

theorem pairs_foldl_rewire (graph : DependencyGraph) (pair : String → String × String)
    (old names : List String) : ((Edit.rewire pair old names).foldl edit graph).pairs =
      graph.pairs \ (old.map pair).toFinset ∪ (names.map pair).toFinset := by
  rw [Edit.rewire, List.foldl_append, pairs_foldl_add, pairs_foldl_remove]

/-- The dependents of a node are the pairs that begin with it. -/
theorem toFinset_dependents (graph : DependencyGraph) (node : String) :
    ((graph.dependentsOf node).toList.map (node, ·)).toFinset =
      {pair ∈ graph.pairs | pair.1 = node} := by
  ext ⟨a, b⟩
  rw [List.mem_toFinset, List.mem_map, Finset.mem_filter, mem_pairs]
  constructor
  · rintro ⟨name, member, same⟩
    cases same
    exact ⟨Std.ExtTreeSet.mem_toList.mp member, rfl⟩
  · rintro ⟨member, rfl⟩
    exact ⟨b, Std.ExtTreeSet.mem_toList.mpr member, rfl⟩

/-- The dependees of a node are the pairs that end with it. -/
theorem WellFormed.toFinset_dependees (formed : graph.WellFormed) (node : String) :
    ((graph.dependeesOf node).toList.map (·, node)).toFinset =
      {pair ∈ graph.pairs | pair.2 = node} := by
  ext ⟨a, b⟩
  rw [List.mem_toFinset, List.mem_map, Finset.mem_filter, ← formed.mem_dependees]
  constructor
  · rintro ⟨name, member, same⟩
    cases same
    exact ⟨Std.ExtTreeSet.mem_toList.mp member, rfl⟩
  · rintro ⟨member, rfl⟩
    exact ⟨a, Std.ExtTreeSet.mem_toList.mpr member, rfl⟩

theorem WellFormed.pairs_apply (formed : graph.WellFormed) (change : Change) :
    (graph.apply change).pairs = change.onPairs graph.pairs := by
  cases change with
  | add => exact pairs_add.trans (Finset.union_singleton _ _).symm
  | remove => exact pairs_remove.trans (Finset.erase_eq _ _)
  | replaceDependents node names =>
    rw [apply_eq_foldl_edit, Change.edits, pairs_foldl_rewire, toFinset_dependents,
      ← Finset.filter_not, Change.onPairs]
  | replaceDependees node names =>
    rw [apply_eq_foldl_edit, Change.edits, pairs_foldl_rewire, formed.toFinset_dependees,
      ← Finset.filter_not, Change.onPairs]
  | addFormula cell formula =>
    rw [apply_eq_foldl_edit, Change.edits, pairs_foldl_rewire, formed.toFinset_dependees,
      ← Finset.filter_not, Change.onPairs]

/-- Every question about the graph is answered by the pairs. -/
structure Reads (graph : DependencyGraph) (held : Finset (String × String)) : Prop where
  size : graph.size = held.card
  isEmpty : graph.isEmpty = true ↔ held = ∅
  hasDependents : ∀ node, graph.hasDependents node = true ↔ ∃ other, (node, other) ∈ held
  hasDependees : ∀ node, graph.hasDependees node = true ↔ ∃ other, (other, node) ∈ held
  dependents : ∀ node, (graph.dependentsOf node).toList.Pairwise (· < ·) ∧
    ∀ other, other ∈ (graph.dependentsOf node).toList ↔ (node, other) ∈ held
  dependees : ∀ node, (graph.dependeesOf node).toList.Pairwise (· < ·) ∧
    ∀ other, other ∈ (graph.dependeesOf node).toList ↔ (other, node) ∈ held
  nodes : ∀ name, name ∈ graph.nodes ↔ ∃ other, (name, other) ∈ held ∨ (other, name) ∈ held

theorem sorted_toList (names : Names) : names.toList.Pairwise (· < ·) :=
  Std.ExtTreeSet.ordered_toList.imp fun less => compare_lt_iff_lt.mp less

theorem WellFormed.reads (formed : graph.WellFormed) : graph.Reads graph.pairs where
  size := formed.counted
  isEmpty := by rw [isEmpty, beq_iff_eq, formed.counted, Finset.card_eq_zero]
  hasDependents node := by
    rw [hasDependents, formed.dependents_pruned.contains_iff]
    exact exists_congr fun other => mem_pairs.symm
  hasDependees node := by
    rw [hasDependees, formed.dependees_pruned.contains_iff]
    exact exists_congr fun other => formed.mem_dependees
  dependents node := ⟨sorted_toList _, fun other => by rw [Std.ExtTreeSet.mem_toList, mem_pairs]⟩
  dependees node :=
    ⟨sorted_toList _, fun other => by rw [Std.ExtTreeSet.mem_toList, formed.mem_dependees]⟩
  nodes name := by
    rw [nodes, Std.ExtTreeSet.mem_ofList, List.contains_iff_mem, List.mem_append,
      Std.ExtTreeMap.mem_keys, Std.ExtTreeMap.mem_keys, ← Std.ExtTreeMap.contains_iff_mem,
      ← Std.ExtTreeMap.contains_iff_mem, formed.dependents_pruned.contains_iff,
      formed.dependees_pruned.contains_iff, ← exists_or]
    exact exists_congr fun other => or_congr mem_pairs.symm formed.mem_dependees

/-- A graph that any history reaches answers every question as the set of its pairs does,
and every change does to that set what it says. -/
theorem reachable_behaves_as_pairs (reached : Reachable graph) :
    graph.Reads graph.pairs ∧
      ∀ change, (graph.apply change).pairs = change.onPairs graph.pairs :=
  ⟨reached.wellFormed.reads, reached.wellFormed.pairs_apply⟩

theorem reachable_behaves_as_pairs_shared_cell : ∃ graph, Reachable graph ∧
    graph.size = 3 ∧ graph.hasDependents "A1" = true ∧ graph.Reads graph.pairs ∧
      ∀ change, (graph.apply change).pairs = change.onPairs graph.pairs := by
  have reached : Reachable
      (((empty.add "A1" "B2").replaceDependees "C3" ["A1", "B2", "A1"]).remove "B2" "A1") :=
    ⟨[.add "A1" "B2", .replaceDependees "C3" ["A1", "B2", "A1"], .remove "B2" "A1"], rfl⟩
  exact ⟨_, reached, by decide +kernel, by decide +kernel, reachable_behaves_as_pairs reached⟩

theorem WellFormed.replaceDependents_self (formed : graph.WellFormed) (node : String) :
    graph.replaceDependents node (graph.dependentsOf node).toList = graph := by
  refine (formed.apply (.replaceDependents node _)).ext formed ?_
  rw [formed.pairs_apply, Change.onPairs, toFinset_dependents, Finset.union_comm]
  exact Finset.filter_union_filter_not_eq _ _

theorem WellFormed.replaceDependees_self (formed : graph.WellFormed) (node : String) :
    graph.replaceDependees node (graph.dependeesOf node).toList = graph := by
  refine (formed.apply (.replaceDependees node _)).ext formed ?_
  rw [formed.pairs_apply, Change.onPairs, formed.toFinset_dependees, Finset.union_comm]
  exact Finset.filter_union_filter_not_eq _ _

def Edit.pair : Edit → String × String
  | .add pair | .remove pair => pair

theorem pairs_edit_comm (graph : DependencyGraph) {first second : Edit}
    (apart : first.pair ≠ second.pair) :
    ((graph.edit first).edit second).pairs = ((graph.edit second).edit first).pairs := by
  cases first with
  | add =>
    cases second with
    | add =>
      simp only [edit, pairs_add]
      exact Finset.insert_comm _ _ _
    | remove =>
      simp only [edit, pairs_add, pairs_remove]
      exact Finset.erase_insert_of_ne apart
  | remove =>
    cases second with
    | add =>
      simp only [edit, pairs_add, pairs_remove]
      exact (Finset.erase_insert_of_ne apart.symm).symm
    | remove =>
      simp only [edit, pairs_remove]
      exact Finset.erase_right_comm

/-- Graphs that any two histories reach are equal exactly when they have the same pairs. So
it leaves no trace to add a new pair and remove it, or to replace the names around a node
by themselves, and edits of different pairs can change places. -/
theorem beq_iff_pairs_eq {other : DependencyGraph} (reached : Reachable graph)
    (also : Reachable other) :
    ((graph == other) = true ↔ graph.pairs = other.pairs) ∧
    (∀ a b, (a, b) ∉ graph.pairs → ((graph.add a b).remove a b == graph) = true) ∧
    (∀ node, (graph.replaceDependents node (graph.dependentsOf node).toList == graph) = true) ∧
    (∀ node, (graph.replaceDependees node (graph.dependeesOf node).toList == graph) = true) ∧
    ∀ first second : Edit, first.pair ≠ second.pair →
      ((graph.edit first).edit second == (graph.edit second).edit first) = true := by
  have formed := reached.wellFormed
  simp only [beq_iff_eq]
  refine ⟨⟨fun same => same ▸ rfl, formed.ext also.wellFormed⟩, ?_, formed.replaceDependents_self,
    formed.replaceDependees_self, ?_⟩
  · intro a b absent
    refine formed.add.remove.ext formed ?_
    rw [pairs_remove, pairs_add, Finset.erase_insert absent]
  · intro first second apart
    exact ((formed.edit first).edit second).ext ((formed.edit second).edit first)
      (pairs_edit_comm graph apart)

theorem beq_iff_pairs_eq_rebuilt : ∃ graph other, Reachable graph ∧ Reachable other ∧
    graph.pairs = other.pairs ∧ ((graph == other) = true ↔ graph.pairs = other.pairs) ∧
    (∀ a b, (a, b) ∉ graph.pairs → ((graph.add a b).remove a b == graph) = true) ∧
    (∀ node, (graph.replaceDependents node (graph.dependentsOf node).toList == graph) = true) ∧
    (∀ node, (graph.replaceDependees node (graph.dependeesOf node).toList == graph) = true) ∧
    ∀ first second : Edit, first.pair ≠ second.pair →
      ((graph.edit first).edit second == (graph.edit second).edit first) = true := by
  have reached : Reachable ((empty.add "B2" "A1").add "A1" "A1") :=
    ⟨[.add "B2" "A1", .add "A1" "A1"], rfl⟩
  have also : Reachable ((empty.add "C3" "A1").replaceDependees "A1" ["A1", "B2", "A1"]) :=
    ⟨[.add "C3" "A1", .replaceDependees "A1" ["A1", "B2", "A1"]], rfl⟩
  exact ⟨_, _, reached, also, by decide +kernel, beq_iff_pairs_eq reached also⟩

end CellArithmetic.DependencyGraph
