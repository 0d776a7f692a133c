import Std.Data.ExtTreeMap
import Std.Data.ExtTreeSet

/-! Finite sets of names and indexes from names to such sets, both in the order of code
points. An index binds no name to the empty set. -/
namespace CellArithmetic

abbrev Names := Std.ExtTreeSet String

abbrev NameIndex := Std.ExtTreeMap String Names

namespace NameIndex

/-- The names under a key; a key that is not bound has none. -/
def names (index : NameIndex) (key : String) : Names := index[key]?.getD ∅

def has (index : NameIndex) (key name : String) : Bool := (names index key).contains name

def link (index : NameIndex) (key name : String) : NameIndex :=
  index.alter key fun found => some ((found.getD ∅).insert name)

/-- Takes a name away from a key, and the key with its last name. -/
def unlink (index : NameIndex) (key name : String) : NameIndex :=
  index.alter key fun found => (found.map (·.erase name)).filter (!·.isEmpty)

theorem mem_names_link {index : NameIndex} :
    b ∈ names (link index key name) a ↔ a = key ∧ b = name ∨ b ∈ names index a := by
  by_cases same : key = a
  · subst same; simp [names, link, @eq_comm _ b]
  · simp [names, link, Std.ExtTreeMap.getElem?_alter, same, Ne.symm same]

theorem mem_names_unlink {index : NameIndex} :
    b ∈ names (unlink index key name) a ↔ ¬(a = key ∧ b = name) ∧ b ∈ names index a := by
  by_cases same : key = a
  · subst same
    cases found : index[key]? with
    | none => simp [names, unlink, found]
    | some set =>
      have erased : b ∈ set.erase name ↔ b ≠ name ∧ b ∈ set := by simp [@eq_comm _ b]
      by_cases bare : (set.erase name).isEmpty = true
      · have gone : b ∉ set.erase name := by
          rw [Std.ExtTreeSet.isEmpty_iff.mp bare]; exact Std.ExtTreeSet.not_mem_empty
        rw [erased] at gone
        simpa [names, unlink, found, bare] using gone
      · simp [names, unlink, found, bare, erased]
  · simp [names, unlink, Std.ExtTreeMap.getElem?_alter, same, Ne.symm same]

end CellArithmetic.NameIndex
