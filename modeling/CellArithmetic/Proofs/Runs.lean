import CellArithmetic.Proofs.Spelling

/-! Unrecognized runs. A run goes on up to the first boundary: the end of the text, or a place
where a blank or a token of another kind begins. That letters in a row are taken at once
passes over no boundary, since inside of them nothing begins that does not begin with them. -/
namespace CellArithmetic

open Text

namespace Text

/-- Inside the front part where a class goes on, the text behind goes on up to the same place. -/
theorem drop_of_lt_takeWhile {s : List Char} (inside : k < (s.takeWhile p).length) :
    ∃ d t, s.drop k = d :: t ∧ p d = true ∧ (d :: t).dropWhile p = s.dropWhile p := by
  induction s generalizing k with
  | nil => cases inside
  | cons c s ih =>
    by_cases goes : p c = true
    · cases k with
      | zero => exact ⟨c, s, rfl, goes, rfl⟩
      | succ k =>
        rw [List.takeWhile_cons_of_pos goes, List.length_cons] at inside
        obtain ⟨d, t, same, goes', rest⟩ := ih (Nat.lt_of_succ_lt_succ inside)
        exact ⟨d, t, same, goes', by rw [rest, List.dropWhile_cons_of_pos goes]⟩
    · rw [List.takeWhile_cons_of_neg goes] at inside
      cases inside

end Text

theorem Literal.starts_iff : starts (c :: s) = true ↔
    c.isDigit = true ∨ c = '.' ∧ ∃ d t, s = d :: t ∧ d.isDigit = true := by
  rw [starts_cons]
  simp [Option.any_eq_true, List.head?_eq_some_iff]

theorem CellName.starts_iff : starts s = true ↔ ∃ letters c rest, s = letters ++ c :: rest ∧
    letters ≠ [] ∧ (∀ c ∈ letters, c.isAlpha = true) ∧ c.isDigit = true := by
  constructor
  · intro front
    cases s with
    | nil => cases front
    | cons first s =>
      simp only [starts, Bool.and_eq_true, Option.any_eq_true] at front
      obtain ⟨alpha, c, behind, digit⟩ := front
      obtain ⟨rest, same⟩ := List.head?_eq_some_iff.mp behind
      have whole := List.takeWhile_append_dropWhile (p := Char.isAlpha) (l := first :: s)
      rw [same] at whole
      exact ⟨_, c, rest, whole.symm, by simp [alpha], fun _ => List.mem_takeWhile_imp, digit⟩
  · rintro ⟨letters, c, rest, rfl, letter, alpha, digit⟩
    have named : IsName (letters ++ [c]) := .mk letter alpha (by simp) (by simpa using digit)
    simpa using starts_append named rest

namespace Token

/-- Texts in front of which an unrecognized run stops. -/
inductive Boundary : List Char → Prop where
  | finish : Boundary []
  | blank (blank : isBlank c = true) : Boundary (c :: s)
  | leftParen : Boundary ('(' :: s)
  | rightParen : Boundary (')' :: s)
  | operator (op : Operator) : Boundary (op.char :: s)
  | digit (digit : c.isDigit = true) : Boundary (c :: s)
  | point (digit : c.isDigit = true) : Boundary ('.' :: c :: s)
  | letters (letter : letters ≠ []) (alpha : ∀ c ∈ letters, c.isAlpha = true)
      (digit : c.isDigit = true) : Boundary (letters ++ c :: s)

theorem isBoundary_iff : isBoundary s = true ↔ Boundary s := by
  constructor
  · intro stops
    cases s with
    | nil => exact .finish
    | cons c s =>
      simp only [isBoundary, Bool.or_eq_true, beq_iff_eq, Option.isSome_iff_exists,
        Operator.ofChar?_eq_some_iff] at stops
      rcases stops with ((((blank | rfl) | rfl) | ⟨op, rfl⟩) | number) | name
      · exact .blank blank
      · exact .leftParen
      · exact .rightParen
      · exact .operator op
      · rcases Literal.starts_iff.mp number with digit | ⟨rfl, d, t, rfl, digit⟩
        · exact .digit digit
        · exact .point digit
      · obtain ⟨letters, d, rest, same, letter, alpha, digit⟩ := CellName.starts_iff.mp name
        rw [same]
        exact .letters letter alpha digit
  · intro boundary
    cases boundary with
    | finish => rfl
    | blank blank => simp [isBoundary, blank]
    | leftParen | rightParen => simp [isBoundary]
    | operator op => simp [isBoundary, Operator.ofChar?_eq_some_iff.mpr rfl]
    | digit digit => simp [isBoundary, Literal.starts_iff.mpr (.inl digit)]
    | point digit => simp [isBoundary, Literal.starts_iff.mpr (.inr ⟨rfl, _, _, rfl, digit⟩)]
    | @letters letters d s letter alpha digit =>
      have named := CellName.starts_iff.mpr ⟨letters, d, s, rfl, letter, alpha, digit⟩
      obtain ⟨c, letters, rfl⟩ := List.exists_cons_of_ne_nil letter
      rw [List.cons_append] at named ⊢
      simp [isBoundary, named]

/-- At a letter only what follows the letters counts: a digit makes them a name. -/
theorem isBoundary_of_letter {c : Char} (alpha : c.isAlpha = true) (s : List Char) :
    isBoundary (c :: s) = ((c :: s).dropWhile Char.isAlpha).head?.any Char.isDigit := by
  have inner : isInner c = true := by simp [isInner, alpha]
  obtain ⟨shown, notOpen, notClose, noOperator⟩ := plain_of_inner inner
  have noLiteral : Literal.starts (c :: s) = false := by
    rw [Bool.eq_false_iff, ne_eq, Literal.starts_iff]
    rintro (digit | ⟨rfl, _⟩)
    · simp [not_alpha_of_digit digit] at alpha
    · cases alpha
  simp [isBoundary, CellName.starts, shown, notOpen, notClose, noOperator, noLiteral, alpha]

/-- So a run stops just in front of the boundaries. -/
theorem stopsRun_eq_isBoundary (c : Char) (s : List Char) : stopsRun c s = isBoundary (c :: s) := by
  unfold stopsRun
  split
  · rename_i alpha
    rw [isBoundary_of_letter alpha, List.dropWhile_cons_of_pos alpha]
  · rfl

/-- What is taken at once from a place that is no boundary passes over none. -/
theorem not_boundary_of_lt_chunk (free : isBoundary (c :: s) = false)
    (inside : k < (chunk c s).1.length) : isBoundary ((c :: s).drop k) = false := by
  unfold chunk at inside
  split at inside
  · rename_i alpha
    rw [← List.takeWhile_cons_of_pos alpha] at inside
    obtain ⟨d, t, behind, alpha', rest⟩ := drop_of_lt_takeWhile inside
    rw [behind, isBoundary_of_letter alpha', rest, ← isBoundary_of_letter alpha, free]
  · obtain rfl : k = 0 := Nat.lt_one_iff.mp inside
    exact free

theorem run_of_boundary (boundary : isBoundary s = true) : run s = ([], s) := by
  rw [run.eq_def]
  cases s with
  | nil => rfl
  | cons c s => exact if_pos ((stopsRun_eq_isBoundary c s).trans boundary)

theorem run_of_not_boundary (free : isBoundary (c :: s) = false) :
    run (c :: s) = ((chunk c s).1 ++ (run (chunk c s).2).1, (run (chunk c s).2).2) := by
  rw [run.eq_def]
  exact if_neg (Bool.eq_false_iff.mp ((stopsRun_eq_isBoundary c s).trans free))

/-- A run passes over no boundary. -/
theorem not_boundary_of_lt_run (s : List Char) :
    ∀ k < (run s).1.length, isBoundary (s.drop k) = false := by
  fun_induction run s with
  | case1 =>
    intro k inside
    cases inside
  | case2 =>
    intro k inside
    cases inside
  | case3 c s free tail ih =>
    intro k inside
    -- either within what is taken at once here, or in the run that goes on behind it
    by_cases first : k < (chunk c s).1.length
    · rw [stopsRun_eq_isBoundary, Bool.not_eq_true] at free
      exact not_boundary_of_lt_chunk free first
    · obtain ⟨later, rfl⟩ := Nat.exists_eq_add_of_le (Nat.le_of_not_lt first)
      rw [List.length_append] at inside
      rw [← chunk_append c s, List.drop_length_add_append]
      exact ih later (Nat.lt_of_add_lt_add_left inside)

/-- A run ends at a boundary. -/
theorem boundary_of_run (s : List Char) : isBoundary (run s).2 = true := by
  fun_induction run s with
  | case1 => rfl
  | case2 c s stops => exact (stopsRun_eq_isBoundary c s).symm.trans stops
  | case3 c s free tail ih => exact ih

/-- Where no boundary is, a run is cut off. -/
theorem cut_of_not_boundary (free : isBoundary (c :: s) = false) : cut c s =
    ⟨.unrecognized (String.ofList (run (c :: s)).1), (run (c :: s)).1, (run (c :: s)).2⟩ := by
  rw [run_of_not_boundary free]
  simp only [isBoundary, Bool.or_eq_false_iff, beq_eq_false_iff_ne, Option.isSome_eq_false_iff,
    Option.isNone_iff_eq_none] at free
  obtain ⟨⟨⟨⟨⟨shown, notOpen⟩, notClose⟩, noOperator⟩, noLiteral⟩, noName⟩ := free
  unfold cut
  split
  · contradiction
  · contradiction
  · rename_i found
    rw [noOperator] at found
    cases found
  · rw [if_neg (Bool.eq_false_iff.mp noLiteral), if_neg (Bool.eq_false_iff.mp noName)]

/-- At a boundary a token of another kind is cut off, if no blank is in front of it. -/
theorem recognized_of_boundary (shown : isBlank c = false) (boundary : isBoundary (c :: s) = true) :
    (cut c s).token.isUnrecognized = false := by
  unfold cut
  split
  · rfl
  · rfl
  · rfl
  · rename_i c notOpen notClose noOperator
    split
    · rfl
    · split
      · rfl
      · simp_all [isBoundary]

/-- What is cut off without being recognized passes over no boundary and ends at one. -/
theorem extent_of_unrecognized (shown : isBlank c = false)
    (unrecognized : (cut c s).token.isUnrecognized = true) :
    (cut c s).token = .unrecognized (String.ofList (cut c s).lexeme) ∧
    (∀ k < (cut c s).lexeme.length, ¬Boundary ((c :: s).drop k)) ∧ Boundary (cut c s).rest := by
  have free : isBoundary (c :: s) = false := by
    rw [← Bool.not_eq_true]
    intro boundary
    rw [recognized_of_boundary shown boundary] at unrecognized
    cases unrecognized
  rw [cut_of_not_boundary free]
  refine ⟨rfl, fun k inside => ?_, isBoundary_iff.mp (boundary_of_run _)⟩
  rw [← isBoundary_iff, Bool.not_eq_true]
  exact not_boundary_of_lt_run _ k inside

end Token

end CellArithmetic
