import CellArithmetic.Binary64.Rounding
import Mathlib.Tactic.Linarith
import Mathlib.Tactic.Ring

/-! Patterns and ratios. The units of a pattern grow with the pattern, every ratio lies
between the midpoints around one pattern, and that pattern is the one that is computed. -/
namespace CellArithmetic.Binary64

/-- Powers as they are computed, and as the ordered semiring has them. Rewriting by it keeps
a large exponent from being evaluated. -/
theorem computed_pow (a b : Nat) : Nat.pow a b = a ^ b := rfl

theorem pattern_ofPattern (small : n < 2 ^ 63) : (ofPattern n).pattern = n := by
  simp only [pattern, ofPattern, UInt64.toNat_ofNat', computed_pow]
  omega

/-- Significand and exponent, where the significand has its full length or the exponent is
the smallest; the carry into the next exponent included. -/
theorem units_eq (normal : shift = 0 ∨ 2 ^ 52 ≤ m) (small : m ≤ 2 ^ 53) :
    units (shift * 2 ^ 52 + m) = m * 2 ^ shift := by
  simp only [units, computed_pow]
  by_cases carry : m = 2 ^ 53
  · have high : (shift * 2 ^ 52 + m) / 2 ^ 52 - 1 = shift + 1 := by omega
    have rest : shift * 2 ^ 52 + m - (shift + 1) * 2 ^ 52 = 2 ^ 52 := by omega
    simp only [high, rest]
    rw [carry, pow_succ]
    ring
  · have high : (shift * 2 ^ 52 + m) / 2 ^ 52 - 1 = shift := by omega
    have rest : shift * 2 ^ 52 + m - shift * 2 ^ 52 = m := by omega
    simp only [high, rest]

/-- The next pattern is the next magnitude of the same exponent. -/
theorem units_succ (pattern : Nat) :
    units (pattern + 1) = units pattern + 2 ^ (pattern / 2 ^ 52 - 1) := by
  let shift := pattern / 2 ^ 52 - 1
  have split : pattern = shift * 2 ^ 52 + (pattern - shift * 2 ^ 52) := by omega
  have normal : shift = 0 ∨ 2 ^ 52 ≤ pattern - shift * 2 ^ 52 := by omega
  have here : units pattern = (pattern - shift * 2 ^ 52) * 2 ^ shift := rfl
  have next : units (shift * 2 ^ 52 + (pattern - shift * 2 ^ 52 + 1)) =
      (pattern - shift * 2 ^ 52 + 1) * 2 ^ shift := units_eq (by omega) (by omega)
  rw [← add_assoc, ← split] at next
  rw [next, here, add_mul, one_mul]

theorem units_strictMono : StrictMono units :=
  strictMono_nat_of_lt_succ fun pattern => by
    rw [units_succ]
    exact Nat.lt_add_of_pos_right (Nat.two_pow_pos _)

/-- The ratio lies between the midpoints around the pattern, and on one of them only if
the pattern is even. -/
structure Covers (pattern num den : Nat) : Prop where
  low : (units (pattern - 1) + units pattern) * den ≤ 2 * num
  high : 2 * num ≤ (units pattern + units (pattern + 1)) * den
  even_of_low : (units (pattern - 1) + units pattern) * den = 2 * num → pattern % 2 = 0
  even_of_high : 2 * num = (units pattern + units (pattern + 1)) * den → pattern % 2 = 0

theorem covers_zero (den : Nat) : Covers 0 0 den :=
  ⟨by simp [units], Nat.zero_le _, fun _ => rfl, fun _ => rfl⟩

theorem Covers.unique (one : Covers p num den) (two : Covers q num den) (positive : 0 < den) :
    p = q := by
  have ordered : ∀ {p q}, Covers p num den → Covers q num den → ¬p < q := by
    intro p q one two less
    have low : units p ≤ units (q - 1) := units_strictMono.monotone (by omega)
    have high : units (p + 1) ≤ units q := units_strictMono.monotone (by omega)
    have sum := Nat.mul_le_mul_right den (Nat.add_le_add low high)
    have evenLow := two.even_of_low (by linarith [one.high, two.low])
    have evenHigh := one.even_of_high (by linarith [one.high, two.low])
    have equal : units p + units (p + 1) = units (q - 1) + units q :=
      Nat.eq_of_mul_eq_mul_right positive (by linarith [one.high, two.low])
    have same := units_strictMono.injective (show units p = units (q - 1) by omega)
    omega
  exact le_antisymm (not_lt.mp (ordered two one)) (not_lt.mp (ordered one two))

/-- The rounded quotient is off by half a unit at most, and by half a unit only if it is even. -/
theorem roundEven_bounds (num : Nat) (positive : 0 < den) :
    2 * num ≤ (2 * roundEven num den + 1) * den ∧
    2 * roundEven num den * den ≤ 2 * num + den ∧
    (2 * num = (2 * roundEven num den + 1) * den → roundEven num den % 2 = 0) ∧
    (2 * roundEven num den * den = 2 * num + den → roundEven num den % 2 = 0) := by
  have whole := Nat.div_add_mod num den
  have small := Nat.mod_lt num positive
  have below : 2 * (num / den) * den = 2 * (den * (num / den)) := by ring
  have middle : (2 * (num / den) + 1) * den = 2 * (den * (num / den)) + den := by ring
  have above : 2 * (num / den + 1) * den = 2 * (den * (num / den)) + 2 * den := by ring
  have beyond : (2 * (num / den + 1) + 1) * den = 2 * (den * (num / den)) + 3 * den := by ring
  unfold roundEven
  simp only [Bool.or_eq_true, Bool.and_eq_true, decide_eq_true_eq, beq_iff_eq]
  split
  · rw [below, middle]
    omega
  · rw [above, beyond]
    omega

/-- The quotient that is rounded has at most 53 binary digits, and exactly 53 if digits
are cut off. -/
theorem quotient_bounds (num den : Nat) :
    num / (den * 2 ^ ((num / den).log2 - 52)) < 2 ^ 53 ∧
      ((num / den).log2 - 52 = 0 ∨ 2 ^ 52 ≤ num / (den * 2 ^ ((num / den).log2 - 52))) := by
  rw [← Nat.div_div_eq_div_mul]
  generalize num / den = q
  have upper := Nat.lt_log2_self (n := q)
  constructor
  · rw [Nat.div_lt_iff_lt_mul (Nat.two_pow_pos _), ← pow_add]
    exact lt_of_lt_of_le upper (Nat.pow_le_pow_right (by decide) (by omega))
  · by_cases short : q.log2 - 52 = 0
    · exact .inl short
    · right
      have nonzero : q ≠ 0 := by
        rintro rfl
        exact short rfl
      rw [Nat.le_div_iff_mul_le (Nat.two_pow_pos _), ← pow_add]
      exact le_trans (Nat.pow_le_pow_right (by decide) (by omega)) (Nat.log2_self_le nonzero)

/-- The midpoint below a pattern lies half a unit below it, or less where the exponent
changes. -/
theorem midpoint_below (normal : shift = 0 ∨ 2 ^ 52 ≤ m) (small : m ≤ 2 ^ 53) :
    shift * 2 ^ 52 + m = 0 ∨
    units (shift * 2 ^ 52 + m - 1) + units (shift * 2 ^ 52 + m) + 2 ^ shift = 2 * m * 2 ^ shift ∨
    shift ≠ 0 ∧ m = 2 ^ 52 ∧
      units (shift * 2 ^ 52 + m - 1) + units (shift * 2 ^ 52 + m) < 2 * m * 2 ^ shift := by
  have here := units_eq normal small
  cases previous : shift * 2 ^ 52 + m with
  | zero => exact .inl rfl
  | succ k =>
    have step := units_succ k
    rw [← previous, here] at step
    right
    rw [← previous, here, previous, Nat.add_sub_cancel]
    by_cases same : k / 2 ^ 52 - 1 = shift
    · rw [same] at step
      left
      linarith
    · right
      refine ⟨by omega, by omega, ?_⟩
      have positive := Nat.two_pow_pos (k / 2 ^ 52 - 1)
      linarith

/-- Before the overflow is taken out, the computed pattern covers the ratio. -/
theorem covers_roundEven (num : Nat) (positive : 0 < den) :
    Covers (((num / den).log2 - 52) * 2 ^ 52 + roundEven num (den * 2 ^ ((num / den).log2 - 52)))
      num den := by
  obtain ⟨short, long⟩ := quotient_bounds num den
  generalize (num / den).log2 - 52 = shift at *
  have unit : 0 < den * 2 ^ shift := Nat.mul_pos positive (Nat.two_pow_pos _)
  obtain ⟨high, low, evenHigh, evenLow⟩ := roundEven_bounds num unit
  obtain ⟨lower, upper⟩ : num / (den * 2 ^ shift) ≤ roundEven num (den * 2 ^ shift) ∧
      roundEven num (den * 2 ^ shift) ≤ num / (den * 2 ^ shift) + 1 := by
    unfold roundEven
    dsimp only
    split <;> omega
  have floor := Nat.div_mul_le_self num (den * 2 ^ shift)
  generalize roundEven num (den * 2 ^ shift) = m at *
  have normal : shift = 0 ∨ 2 ^ 52 ≤ m := by omega
  have parity : m % 2 = 0 → (shift * 2 ^ 52 + m) % 2 = 0 := by omega
  -- Above, the next pattern is one unit away or more.
  have above : (2 * m + 1) * (den * 2 ^ shift) ≤
      (units (shift * 2 ^ 52 + m) + units (shift * 2 ^ 52 + m + 1)) * den := by
    have wide : 2 ^ shift ≤ 2 ^ ((shift * 2 ^ 52 + m) / 2 ^ 52 - 1) :=
      Nat.pow_le_pow_right (by decide) (by omega)
    rw [units_succ, units_eq normal (by omega)]
    calc (2 * m + 1) * (den * 2 ^ shift)
        = (m * 2 ^ shift + (m * 2 ^ shift + 2 ^ shift)) * den := by ring
      _ ≤ _ := Nat.mul_le_mul_right den (by omega)
  -- Below, the previous one is one unit away, or the ratio is no smaller than the pattern.
  have below : (units (shift * 2 ^ 52 + m - 1) + units (shift * 2 ^ 52 + m)) * den ≤ 2 * num ∧
      ((units (shift * 2 ^ 52 + m - 1) + units (shift * 2 ^ 52 + m)) * den = 2 * num →
        (shift * 2 ^ 52 + m) % 2 = 0) := by
    rcases midpoint_below normal (by omega) with zero | unitBelow | ⟨carried, least, close⟩
    · rw [zero]
      simp [units]
    · have scaled := congrArg (· * den) unitBelow
      simp only [add_mul] at scaled ⊢
      constructor
      · linarith
      · intro tie
        exact parity (evenLow (by linarith))
    · have scaled := Nat.mul_lt_mul_of_pos_right close positive
      have bound : m * (den * 2 ^ shift) ≤ num :=
        le_trans (Nat.mul_le_mul_right _ (by omega)) floor
      constructor
      · linarith
      · intro tie
        linarith
  exact ⟨below.1, le_trans high above, below.2,
    fun tie => parity (evenHigh (le_antisymm high (tie ▸ above)))⟩

theorem nearestPattern_eq (covers : Covers p num den) (positive : 0 < den) :
    nearestPattern num den = min infinityPattern p := by
  rw [covers.unique (covers_roundEven num positive) positive]
  rfl

/-- Twice the least number of units that is rounded to infinity. -/
theorem units_overflow :
    units (infinityPattern - 1) + units infinityPattern = (2 ^ 54 - 1) * 2 ^ 2045 := by
  decide +kernel

theorem Covers.overflow_iff (covers : Covers p num den) (positive : 0 < den) :
    infinityPattern ≤ p ↔ (2 ^ 54 - 1) * 2 ^ 2045 * den ≤ 2 * num := by
  rw [← units_overflow]
  constructor
  · intro large
    have last : units (infinityPattern - 1) ≤ units (p - 1) := units_strictMono.monotone (by omega)
    have first : units infinityPattern ≤ units p := units_strictMono.monotone large
    exact le_trans (Nat.mul_le_mul_right den (by omega)) covers.low
  · intro large
    by_contra small
    -- The ratio would lie on the midpoint above the largest finite pattern, which is odd.
    have here : units p ≤ units (infinityPattern - 1) := units_strictMono.monotone (by omega)
    have next : units (p + 1) ≤ units infinityPattern := units_strictMono.monotone (by omega)
    have bound := Nat.mul_le_mul_right den (Nat.add_le_add here next)
    have even := covers.even_of_high (le_antisymm covers.high (le_trans bound large))
    have equal := Nat.eq_of_mul_eq_mul_right positive
      (le_antisymm bound (le_trans large covers.high))
    have last := units_strictMono.injective (show units p = units (infinityPattern - 1) by omega)
    rw [last] at even
    cases even

end CellArithmetic.Binary64
