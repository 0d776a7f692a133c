import CellArithmetic.Proofs.SheetGraph

/-! The order in which cells are given their formulas. What a cell is given last decides what it
depends on; so entries of different cells can change places, and an entry that a later one
overrules can be left out. -/
namespace CellArithmetic.DependencyGraph

variable {graph : DependencyGraph} {entries : List (String × Formula)}

theorem lastFormula_append (front back : List (String × Formula)) (name : String) :
    lastFormula (front ++ back) name = (lastFormula back name).or (lastFormula front name) := by
  rw [lastFormula, List.reverse_append, List.lookup_append]
  rfl

theorem lastFormula_eq_none_iff : lastFormula entries cell = none ↔ cell ∉ entries.map Prod.fst := by
  rw [lastFormula, List.lookup_eq_none_iff]
  constructor
  · intro others member
    obtain ⟨entry, inside, rfl⟩ := List.mem_map.mp member
    have other := others entry (List.mem_reverse.mpr inside)
    simp at other
  · intro absent entry inside
    apply bne_iff_ne.mpr
    rintro rfl
    exact absent (List.mem_map_of_mem (List.mem_reverse.mp inside))

theorem exists_lastFormula (member : cell ∈ entries.map Prod.fst) :
    ∃ formula, lastFormula entries cell = some formula :=
  Option.ne_none_iff_exists'.mp (mt lastFormula_eq_none_iff.mp (not_not.mpr member))

/-- The last formula of a cell has no entry of the cell behind it. -/
theorem exists_append_of_lastFormula (last : lastFormula entries cell = some formula) :
    ∃ front back, entries = front ++ (cell, formula) :: back ∧ cell ∉ back.map Prod.fst := by
  obtain ⟨back, front, whole, others⟩ := List.lookup_eq_some_iff.mp last
  refine ⟨front.reverse, back.reverse, ?_, ?_⟩
  · rw [← List.reverse_reverse entries, whole]
    simp
  · intro again
    obtain ⟨entry, member, same⟩ := List.mem_map.mp again
    have other := others entry (List.mem_reverse.mp member)
    simp [same] at other

/-- The entries of other cells have no say in it. -/
theorem lastFormula_filter (entries : List (String × Formula)) (cell : String) :
    lastFormula (entries.filter (·.1 == cell)) cell = lastFormula entries cell := by
  induction entries with
  | nil => rfl
  | cons entry rest ih =>
    obtain ⟨name, formula⟩ := entry
    rw [lastFormula_cons, ← ih]
    by_cases same : name = cell
    · simp [same, lastFormula_cons]
    · simp [same, Ne.symm same]

/-- An entry with another one of its cell behind it has no say either. -/
theorem lastFormula_overruled (front back : List (String × Formula))
    (again : entry.1 ∈ back.map Prod.fst) (cell : String) :
    lastFormula (front ++ entry :: back) cell = lastFormula (front ++ back) cell := by
  rw [lastFormula_append, lastFormula_append, lastFormula_cons]
  by_cases own : cell = entry.1
  · subst own
    obtain ⟨formula, last⟩ := exists_lastFormula again
    simp [last]
  · simp [own]

theorem WellFormed.dependeesOf_addFormulas (formed : graph.WellFormed) (name : String) :
    (graph.addFormulas entries).dependeesOf name =
      (lastFormula entries name).elim (graph.dependeesOf name) Formula.cells := by
  apply Std.ExtTreeSet.ext_mem
  intro other
  rw [(formed.addFormulas entries).mem_dependees, formed.mem_pairs_addFormulas]
  cases lastFormula entries name with
  | none => exact formed.mem_dependees.symm
  | some formula => rfl

/-- Nothing else is left of the entries than the last formula of every cell. -/
theorem WellFormed.addFormulas_congr (formed : graph.WellFormed)
    (same : ∀ cell, lastFormula others cell = lastFormula entries cell) :
    graph.addFormulas others = graph.addFormulas entries := by
  refine (formed.addFormulas others).ext (formed.addFormulas entries) ?_
  ext ⟨a, b⟩
  rw [formed.mem_pairs_addFormulas, formed.mem_pairs_addFormulas, same]

/-- After any entries a cell depends on the names in the formula that it was given last, and what
was given none depends on what it did before. Entries that give every cell the same formula last
make one graph of any other: it does not matter how the entries of different cells are mixed, and
an entry in front of another one of its cell can go. -/
theorem last_formula_decides (reached : Reachable graph) (entries : List (String × Formula)) :
    (∀ cell ∈ entries.map Prod.fst, ∃ front formula back, entries = front ++ (cell, formula) :: back ∧
      cell ∉ back.map Prod.fst ∧ (graph.addFormulas entries).dependeesOf cell = formula.cells) ∧
    (∀ name, name ∉ entries.map Prod.fst →
      (graph.addFormulas entries).dependeesOf name = graph.dependeesOf name) ∧
    (∀ others, (∀ cell, lastFormula others cell = lastFormula entries cell) →
      (graph.addFormulas others == graph.addFormulas entries) = true) ∧
    (∀ others, (∀ cell, others.filter (·.1 == cell) = entries.filter (·.1 == cell)) →
      (graph.addFormulas others == graph.addFormulas entries) = true) ∧
    ∀ front entry back, entries = front ++ entry :: back → entry.1 ∈ back.map Prod.fst →
      (graph.addFormulas (front ++ back) == graph.addFormulas entries) = true := by
  have formed := reached.wellFormed
  simp only [beq_iff_eq]
  refine ⟨?_, ?_, fun others => formed.addFormulas_congr, ?_, ?_⟩
  · intro cell member
    obtain ⟨formula, last⟩ := exists_lastFormula member
    obtain ⟨front, back, whole, once⟩ := exists_append_of_lastFormula last
    refine ⟨front, formula, back, whole, once, ?_⟩
    rw [formed.dependeesOf_addFormulas, last, Option.elim_some]
  · intro name absent
    rw [formed.dependeesOf_addFormulas, lastFormula_eq_none_iff.mpr absent, Option.elim_none]
  · intro others same
    refine formed.addFormulas_congr fun cell => ?_
    rw [← lastFormula_filter, same, lastFormula_filter]
  · rintro front entry back rfl again
    exact formed.addFormulas_congr fun cell => (lastFormula_overruled front back again cell).symm

/-- Two cells that refer to each other, one of them given a formula twice. -/
theorem last_formula_decides_mutual : ∃ graph f g entries, Reachable graph ∧ graph.size = 2 ∧
    Formula.ofText "b2+a1" = .ok f ∧ Formula.ofText "A1*2" = .ok g ∧
    entries = [("A1", g), ("B2", g), ("A1", f)] ∧
    (∃ front formula back, entries = front ++ ("A1", formula) :: back ∧
      "A1" ∉ back.map Prod.fst ∧ (graph.addFormulas entries).dependeesOf "A1" = formula.cells) ∧
    (graph.addFormulas entries).dependeesOf "C3" = graph.dependeesOf "C3" ∧
    (graph.addFormulas [("A1", f), ("B2", g)] == graph.addFormulas entries) = true ∧
    (graph.addFormulas [("A1", g), ("A1", f), ("B2", g)] == graph.addFormulas entries) = true ∧
    (graph.addFormulas [("B2", g), ("A1", f)] == graph.addFormulas entries) = true := by
  obtain ⟨f, first, _⟩ := normalize_eq_ok_iff.mp
    (show normalize "b2+a1" = .ok "B2+A1" by decide +kernel)
  obtain ⟨g, second, _⟩ := normalize_eq_ok_iff.mp (show normalize "A1*2" = .ok "A1*2" by decide +kernel)
  have reached : Reachable ((empty.add "A1" "C3").add "D4" "A1") :=
    ⟨[.add "A1" "C3", .add "D4" "A1"], rfl⟩
  obtain ⟨given, absent, same, mixed, overruled⟩ :=
    last_formula_decides reached [("A1", g), ("B2", g), ("A1", f)]
  refine ⟨_, f, g, _, reached, by decide +kernel, first, second, rfl, given "A1" (by simp),
    absent "C3" (by simp), same _ fun cell => ?_, mixed _ fun cell => ?_,
    overruled [] ("A1", g) _ rfl (by simp)⟩
  · simp only [lastFormula_cons]
    by_cases own : cell = "A1"
    · simp [own]
    · simp [own]
  · by_cases own : "A1" = cell
    · subst own
      simp
    · simp [own, List.filter_cons]

end CellArithmetic.DependencyGraph
