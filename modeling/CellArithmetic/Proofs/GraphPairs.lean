import CellArithmetic.DependencyGraph
import Mathlib.Data.Finset.Card
import Mathlib.Data.Finset.Union

/-! A dependency graph as its set of pairs. The two indexes of a well-formed graph hold
the same pairs, the size counts them, and no name is bound to nothing; adding and
removing a pair keep that. Such a graph is determined by its pairs. -/
namespace CellArithmetic

namespace NameIndex

/-- No key is bound to the empty set. -/
def Pruned (index : NameIndex) : Prop := ∀ key : String, index[key]? ≠ some ∅

theorem pruned_empty : Pruned ∅ := by
  intro key
  simp

theorem Pruned.alter {index : NameIndex} (pruned : Pruned index)
    (change : Option Names → Option Names) (kept : change index[key]? ≠ some ∅) :
    Pruned (index.alter key change) := by
  intro other
  rw [Std.ExtTreeMap.getElem?_alter]
  split
  · exact kept
  · exact pruned other

theorem Pruned.link {index : NameIndex} (pruned : Pruned index) :
    Pruned (link index key name) := by
  refine pruned.alter _ fun bare => ?_
  exact Std.ExtTreeSet.not_mem_empty (Option.some.inj bare ▸ Std.ExtTreeSet.mem_insert_self)

theorem Pruned.unlink {index : NameIndex} (pruned : Pruned index) :
    Pruned (unlink index key name) := by
  refine pruned.alter _ fun bare => ?_
  have shown := (Option.filter_eq_some_iff.mp bare).2
  simp at shown

/-- A pruned index binds exactly the keys that have names. -/
theorem Pruned.getElem?_eq {index : NameIndex} (pruned : Pruned index) (key : String) :
    index[key]? = if names index key = ∅ then none else some (names index key) := by
  unfold names
  cases found : index[key]? with
  | none => simp
  | some set =>
    have shown : set ≠ ∅ := fun bare => pruned key (found.trans (congrArg some bare))
    simp [shown]

theorem Pruned.contains_iff {index : NameIndex} (pruned : Pruned index) :
    index.contains key = true ↔ ∃ name, name ∈ names index key := by
  rw [Std.ExtTreeMap.contains_eq_isSome_getElem?, pruned.getElem?_eq]
  by_cases bare : names index key = ∅
  · simp [bare]
  · rw [if_neg bare, Option.isSome_some]
    refine ⟨fun _ => ?_, fun _ => rfl⟩
    by_contra none
    exact bare (Std.ExtTreeSet.ext_mem fun name =>
      iff_of_false (fun member => none ⟨name, member⟩) Std.ExtTreeSet.not_mem_empty)

theorem Pruned.ext {one two : NameIndex} (pruned : Pruned one) (other : Pruned two)
    (same : ∀ key, names one key = names two key) : one = two := by
  refine Std.ExtTreeMap.ext_getElem? fun key => ?_
  rw [pruned.getElem?_eq, other.getElem?_eq, same]

end NameIndex

namespace DependencyGraph

variable {graph : DependencyGraph}

/-- The pairs of a graph, each a dependee and a dependent. -/
def pairs (graph : DependencyGraph) : Finset (String × String) :=
  graph.dependents.keys.toFinset.biUnion fun dependee =>
    (graph.dependentsOf dependee).toList.toFinset.image (dependee, ·)

theorem mem_pairs : (a, b) ∈ graph.pairs ↔ b ∈ graph.dependentsOf a := by
  have bound : b ∈ graph.dependentsOf a → a ∈ graph.dependents := by
    intro member
    by_contra absent
    simp [dependentsOf, NameIndex.names, Std.ExtTreeMap.getElem?_eq_none absent] at member
  simpa [pairs] using bound

theorem has_iff : graph.has a b = true ↔ (a, b) ∈ graph.pairs := mem_pairs.symm

theorem dependents_add : (graph.add a b).dependents = graph.dependents.link a b := by
  unfold add
  split <;> rfl

theorem dependees_add : (graph.add a b).dependees =
    if (a, b) ∈ graph.pairs then graph.dependees else graph.dependees.link b a := by
  simp only [add, has_iff]
  split <;> rfl

theorem size_add :
    (graph.add a b).size = if (a, b) ∈ graph.pairs then graph.size else graph.size + 1 := by
  simp only [add, has_iff]
  split <;> rfl

theorem dependents_remove : (graph.remove a b).dependents = graph.dependents.unlink a b := by
  unfold remove
  split <;> rfl

theorem dependees_remove : (graph.remove a b).dependees =
    if (a, b) ∈ graph.pairs then graph.dependees.unlink b a else graph.dependees := by
  simp only [remove, has_iff]
  split <;> rfl

theorem size_remove :
    (graph.remove a b).size = if (a, b) ∈ graph.pairs then graph.size - 1 else graph.size := by
  simp only [remove, has_iff]
  split <;> rfl

theorem pairs_add : (graph.add a b).pairs = insert (a, b) graph.pairs := by
  ext ⟨x, y⟩
  simp only [mem_pairs, dependentsOf, dependents_add, Finset.mem_insert, Prod.mk.injEq]
  exact NameIndex.mem_names_link

theorem pairs_remove : (graph.remove a b).pairs = graph.pairs.erase (a, b) := by
  ext ⟨x, y⟩
  simp only [mem_pairs, dependentsOf, dependents_remove, Finset.mem_erase, ne_eq, Prod.mk.injEq]
  exact NameIndex.mem_names_unlink

/-- What every history of a graph keeps. -/
structure WellFormed (graph : DependencyGraph) : Prop where
  mirrored : ∀ dependee dependent,
    dependent ∈ graph.dependentsOf dependee ↔ dependee ∈ graph.dependeesOf dependent
  dependents_pruned : graph.dependents.Pruned
  dependees_pruned : graph.dependees.Pruned
  counted : graph.size = graph.pairs.card

theorem wellFormed_empty : empty.WellFormed where
  mirrored a b := by simp [dependentsOf, dependeesOf, empty, NameIndex.names]
  dependents_pruned := NameIndex.pruned_empty
  dependees_pruned := NameIndex.pruned_empty
  counted := rfl

theorem WellFormed.mem_dependees (formed : graph.WellFormed) :
    a ∈ graph.dependeesOf b ↔ (a, b) ∈ graph.pairs := by
  rw [mem_pairs, formed.mirrored]

/-- Where the pair is there already, the other index holds it too, and stays as it is. -/
theorem WellFormed.add (formed : graph.WellFormed) : (graph.add a b).WellFormed where
  mirrored x y := by
    rw [← mem_pairs, pairs_add, Finset.mem_insert, Prod.mk.injEq, dependeesOf, dependees_add]
    split
    · rename_i present
      rw [← dependeesOf, formed.mem_dependees]
      exact or_iff_right_of_imp fun ⟨left, right⟩ => left ▸ right ▸ present
    · rw [NameIndex.mem_names_link, ← dependeesOf, formed.mem_dependees, and_comm]
  dependents_pruned := dependents_add ▸ formed.dependents_pruned.link
  dependees_pruned := by
    rw [dependees_add]
    split
    · exact formed.dependees_pruned
    · exact formed.dependees_pruned.link
  counted := by
    rw [size_add, pairs_add, formed.counted]
    split
    · rename_i present
      rw [Finset.insert_eq_of_mem present]
    · rename_i absent
      rw [Finset.card_insert_of_notMem absent]

theorem WellFormed.remove (formed : graph.WellFormed) : (graph.remove a b).WellFormed where
  mirrored x y := by
    rw [← mem_pairs, pairs_remove, Finset.mem_erase, ne_eq, Prod.mk.injEq, dependeesOf,
      dependees_remove]
    split
    · rw [NameIndex.mem_names_unlink, ← dependeesOf, formed.mem_dependees]
      exact and_congr_left' (not_congr and_comm)
    · rename_i absent
      rw [← dependeesOf, formed.mem_dependees]
      refine and_iff_right_of_imp ?_
      rintro present ⟨rfl, rfl⟩
      exact absent present
  dependents_pruned := dependents_remove ▸ formed.dependents_pruned.unlink
  dependees_pruned := by
    rw [dependees_remove]
    split
    · exact formed.dependees_pruned.unlink
    · exact formed.dependees_pruned
  counted := by
    rw [size_remove, pairs_remove, formed.counted]
    split
    · rename_i present
      rw [Finset.card_erase_of_mem present]
    · rename_i absent
      rw [Finset.erase_eq_of_notMem absent]

/-- A pair that is there is counted. -/
theorem WellFormed.size_pos (formed : graph.WellFormed) (present : (a, b) ∈ graph.pairs) :
    0 < graph.size := by
  rw [formed.counted]
  exact Finset.card_pos.mpr ⟨_, present⟩

/-- Well-formed graphs with the same pairs are the same graph. -/
theorem WellFormed.ext {one two : DependencyGraph} (formed : one.WellFormed) (other : two.WellFormed)
    (same : one.pairs = two.pairs) : one = two := by
  have dependents : one.dependents = two.dependents := by
    refine formed.dependents_pruned.ext other.dependents_pruned fun key => ?_
    refine Std.ExtTreeSet.ext_mem fun name => ?_
    rw [← dependentsOf, ← dependentsOf, ← mem_pairs, ← mem_pairs, same]
  have dependees : one.dependees = two.dependees := by
    refine formed.dependees_pruned.ext other.dependees_pruned fun key => ?_
    refine Std.ExtTreeSet.ext_mem fun name => ?_
    rw [← dependeesOf, ← dependeesOf, formed.mem_dependees, other.mem_dependees, same]
  have size : one.size = two.size := by rw [formed.counted, other.counted, same]
  cases one
  cases two
  rw [mk.injEq]
  exact ⟨dependents, dependees, size⟩

end DependencyGraph

end CellArithmetic
