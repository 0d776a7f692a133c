import CellArithmetic.Proofs.FirstViolation

/-! Which beginnings of a sequence of tokens can still become a formula: exactly those that
the grammar reads through. A violation found at a token names the first one at which the
sequence cannot be completed any more, whatever follows it. -/
namespace CellArithmetic

open Grammar

namespace Grammar.State

/-- Tokens that complete a formula: an operand where one is expected, and then the closing
parentheses that are still missing. -/
def completion : State → List Token
  | ⟨depth, .operand⟩ => .cell "A1" :: List.replicate depth .rightParen
  | ⟨depth, .operator⟩ => List.replicate depth .rightParen

theorem run_missing_parentheses (depth : Nat) :
    State.run ⟨depth, .operator⟩ (List.replicate depth .rightParen) = some .final := by
  induction depth with
  | zero => rfl
  | succ depth ih =>
    rw [List.replicate_succ, run_cons]
    exact ih

/-- Every state can be completed. -/
theorem run_completion (state : State) : state.run state.completion = some .final := by
  rcases state with ⟨depth, _ | _⟩
  · rw [completion, run_cons]
    exact run_missing_parentheses depth
  · exact run_missing_parentheses depth

end Grammar.State

namespace Formula

/-- Some tokens behind the given ones make them all a formula. -/
def Viable (tokens : List Occurrence) : Prop :=
  ∃ more formula, ofTokens (tokens ++ more) = .ok formula

/-- Tokens can be completed exactly when the grammar reads them through. -/
theorem viable_iff_run : Viable tokens ↔
    ∃ state, State.run .start (tokens.map Occurrence.token) = some state := by
  constructor
  · intro ⟨more, completed⟩
    have run := exists_ofTokens_iff_run.mp completed
    rw [List.map_append, State.run_append] at run
    obtain ⟨state, front, _⟩ := Option.bind_eq_some_iff.mp run
    exact ⟨state, front⟩
  · intro ⟨state, front⟩
    refine ⟨state.completion.map fun token => ⟨token, "", .start⟩, exists_ofTokens_iff_run.mpr ?_⟩
    rw [List.map_append, State.run_append, front, Option.bind_some, List.map_map]
    simpa [Function.comp_def] using state.run_completion

/-- What begins a sequence that can be completed can be completed. -/
theorem Viable.of_append (viable : Viable (front ++ rest)) : Viable front := by
  obtain ⟨more, formula, read⟩ := viable
  rw [List.append_assoc] at read
  exact ⟨rest ++ more, formula, read⟩

theorem Viable.take_le {tokens : List Occurrence} (viable : Viable (tokens.take longer))
    (less : shorter ≤ longer) : Viable (tokens.take shorter) := by
  have parts := List.take_append_drop shorter (tokens.take longer)
  rw [List.take_take, Nat.min_eq_left less] at parts
  rw [← parts] at viable
  exact viable.of_append

/-- From the state on, reading comes as far as the index, and not past the token there. -/
structure StopsAt (state : State) (tokens : List Occurrence) (index : Nat) (here : Occurrence) :
    Prop where
  found : tokens[index]? = some here
  reached : ∃ before, state.run ((tokens.take index).map Occurrence.token) = some before ∧
    before.step here.token = none

/-- What stands in front is read through, and the token cannot be taken behind it. -/
theorem StopsAt.of_run (run : state.run (front.map Occurrence.token) = some before)
    (stuck : before.step here.token = none) : StopsAt state (front ++ here :: rest) front.length here where
  found := by rw [List.getElem?_append_right (Nat.le_refl _), Nat.sub_self, List.getElem?_cons_zero]
  reached := ⟨before, by rw [List.take_left]; exact run, stuck⟩

/-- Where reading stops, just the beginnings in front of that token can be completed. -/
theorem StopsAt.viable_take_iff (stops : StopsAt .start tokens index here) :
    Viable (tokens.take length) ↔ length ≤ index := by
  obtain ⟨before, run, stuck⟩ := stops.reached
  constructor
  · intro viable
    by_contra longer
    obtain ⟨last, through⟩ := viable_iff_run.mp (viable.take_le (Nat.lt_of_not_le longer))
    rw [List.take_add_one, stops.found, Option.toList_some, List.map_append, State.run_append, run,
      Option.bind_some, List.map_singleton, State.run_cons, stuck] at through
    cases through
  · exact (viable_iff_run.mpr ⟨before, run⟩).take_le

end Formula

/-- The violation holds the place of the token, and its text if it holds a text at all. -/
def Violation.PointsTo (violation : Violation) (here : Occurrence) : Prop :=
  violation.position = some here.position ∧ ∀ lexeme ∈ violation.lexeme, lexeme = here.lexeme

/-- The kinds of violation that nothing behind the token at fault could mend. -/
def Violation.Kind.early : List Violation.Kind :=
  [.invalidFirstToken, .invalidToken, .numberOutOfRange, .unbalancedClosingParenthesis,
    .invalidTokenAfterOpenOrOperator, .invalidTokenAfterValueOrClose]

namespace Occurrence

variable {here next : Occurrence} {state : State}

theorem step_eq_none_of_symbol (refused : here.symbol = .error violation) :
    state.step here.token = none ∧ violation.PointsTo here := by
  constructor
  · rw [Option.eq_none_iff_forall_ne_some]
    intro after taken
    obtain ⟨symbol, canonical⟩ := State.canonical_of_step taken
    rw [symbol_eq_ok_iff.mpr canonical] at refused
    cases refused
  · rcases symbol_eq_error refused with ⟨_, rfl⟩ | ⟨_, _, _, rfl⟩
    · simp [Violation.PointsTo, Violation.position, Violation.lexeme]
    · simp [Violation.PointsTo, Violation.position, Violation.lexeme]

theorem step_eq_none_of_clash (clash : here.clash? next = some violation)
    (behind : state.expected = .behind here.token) :
    state.step next.token = none ∧ violation.PointsTo next := by
  constructor
  · rw [Option.eq_none_iff_forall_ne_some]
    intro after taken
    have admitted := (State.admits_of_step taken).1
    rw [behind, ← clash?_eq_none_iff, clash] at admitted
    cases admitted
  · rcases clash?_eq_some clash with ⟨_, _, rfl⟩ | ⟨_, _, rfl⟩
    · simp [Violation.PointsTo, Violation.position, Violation.lexeme]
    · simp [Violation.PointsTo, Violation.position, Violation.lexeme]

end Occurrence

namespace Formula

/-- Reading that is refused at a token stops there for the grammar too. -/
theorem Draft.stopsAt_of_read {draft : Draft} (ordered : draft.Ordered)
    (admitted : ∀ first ∈ tokens.head?, first.token.isUnrecognized = false →
      expected.admits first.token = true)
    (refused : draft.read tokens = .error violation) (pointed : violation.kind ∈ Violation.Kind.early) :
    ∃ index here, StopsAt (draft.state expected) tokens index here ∧ violation.PointsTo here := by
  rcases read_cases draft tokens with
    ⟨after, _, ends⟩ | ⟨front, here, rest, after, _, rfl, reads, stopped, ends⟩
  · rw [refused, finish] at ends
    split at ends
    · cases ends
    · cases ends
      simp [Violation.kind, Violation.Kind.early] at pointed
  · cases refused.symm.trans ends
    obtain ⟨last, run, ordered, behind⟩ := reads.run ordered admitted
    rcases step_eq_error stopped with unread | ⟨symbol, canonical, counted⟩
    · obtain ⟨stuck, points⟩ := Occurrence.step_eq_none_of_symbol unread
      exact ⟨_, here, .of_run run stuck, points⟩
    have taken := step_state ordered (behind here rfl canonical.recognized) canonical
    rcases counted with ⟨crossed, rfl⟩ | ⟨kept, next, follows, clash⟩
    · rw [if_neg crossed] at taken
      exact ⟨_, here, .of_run run taken, by simp [Violation.PointsTo, Violation.position, Violation.lexeme]⟩
    · -- the token itself is taken, and the one behind it is where reading stops
      rw [if_pos kept] at taken
      obtain ⟨others, rfl⟩ := List.head?_eq_some_iff.mp follows
      have further : (draft.state expected).run ((front ++ [here]).map Occurrence.token) =
          some ((after.add symbol).state (.behind here.token)) := by
        rw [List.map_append, State.run_append, run, Option.bind_some, List.map_singleton,
          State.run_cons, taken]
        rfl
      obtain ⟨stuck, points⟩ := Occurrence.step_eq_none_of_clash clash
        (show ((after.add symbol).state (.behind here.token)).expected = .behind here.token from rfl)
      rw [← List.singleton_append, ← List.append_assoc]
      exact ⟨_, next, .of_run further stuck, points⟩

theorem stopsAt_of_ofTokens (refused : ofTokens tokens = .error violation)
    (pointed : violation.kind ∈ Violation.Kind.early) :
    ∃ index here, StopsAt .start tokens index here ∧ violation.PointsTo here := by
  unfold ofTokens at refused
  split at refused
  · rename_i first last starts ends
    obtain ⟨rest, rfl⟩ := List.head?_eq_some_iff.mp starts
    split at refused
    · rename_i wrong
      cases refused
      refine ⟨0, first, ⟨rfl, .start, rfl, ?_⟩,
        by simp [Violation.PointsTo, Violation.position, Violation.lexeme]⟩
      rw [Option.eq_none_iff_forall_ne_some]
      intro after taken
      have starts : first.token.canStart = true := (State.admits_of_step taken).1
      simp [starts] at wrong
    · rename_i right
      split at refused
      · cases refused
        simp [Violation.kind, Violation.Kind.early] at pointed
      · have admitted : ∀ here ∈ (first :: rest).head?, here.token.isUnrecognized = false →
            Expected.operand.admits here.token = true := by
          intro here found recognized
          cases found
          have starts : first.token.canStart = true := by simpa [recognized] using right
          exact starts
        have ordered : Draft.blank.Ordered := Nat.le_refl 0
        exact Draft.stopsAt_of_read ordered admitted refused pointed
  · cases refused
    simp [Violation.kind, Violation.Kind.early] at pointed

/-- A violation found at a token points to the first one at which the sequence cannot be
completed any more: just the beginnings that end in front of it can be. -/
theorem violation_points_to_first_fault (refused : ofTokens tokens = .error violation)
    (pointed : violation.kind ∈ Violation.Kind.early) :
    ∃ index here, tokens[index]? = some here ∧ violation.PointsTo here ∧
      ∀ length, Viable (tokens.take length) ↔ length ≤ index := by
  obtain ⟨index, here, stops, points⟩ := stopsAt_of_ofTokens refused pointed
  exact ⟨index, here, stops.found, points, fun _ => stops.viable_take_iff⟩

theorem violation_points_to_first_fault_missing_operator : ∃ violation,
    ofTokens (scan "(A1 - (2)3 $") = .error violation ∧
    violation = .afterValueOrClose ")" "3" ⟨1, 10, 9⟩ ∧
    ∃ index here, (scan "(A1 - (2)3 $")[index]? = some here ∧ violation.PointsTo here ∧
      ∀ length, Viable ((scan "(A1 - (2)3 $").take length) ↔ length ≤ index := by
  have found : normalize "(A1 - (2)3 $" = .error (.afterValueOrClose ")" "3" ⟨1, 10, 9⟩) := by
    decide +kernel
  rw [normalize, ofText] at found
  cases refused : ofTokens (scan "(A1 - (2)3 $") with
  | error violation =>
    rw [refused] at found
    cases found
    exact ⟨_, rfl, rfl, violation_points_to_first_fault refused (by decide)⟩
  | ok formula =>
    rw [refused] at found
    cases found

end Formula

end CellArithmetic
