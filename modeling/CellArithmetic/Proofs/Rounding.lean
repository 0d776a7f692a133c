import CellArithmetic.Proofs.Magnitude
import Mathlib.Algebra.Order.Ring.Rat
import Mathlib.Tactic.FieldSimp

/-! Correct rounding: to a nearest finite number, of two nearest ones to the even one, and
to infinity from `2 ^ 1024 - 2 ^ 970` on. It determines the number, and it is what is
computed for every written decimal. -/
namespace CellArithmetic.Binary64

def magnitude (pattern : Nat) : ℚ := units pattern / 2 ^ 1074

/-- The rational number that a finite number stands for. -/
def toRat (x : Binary64) : ℚ := if x.isNegative then -magnitude x.pattern else magnitude x.pattern

/-- What a ratio that is not negative is rounded to. -/
structure Rounds (q : ℚ) (x : Binary64) : Prop where
  unsigned : x.isNegative = false
  overflow : 2 ^ 1024 - 2 ^ 970 ≤ q → x = infinity
  finite : q < 2 ^ 1024 - 2 ^ 970 → x.isFinite = true
  nearest (y : Binary64) : q < 2 ^ 1024 - 2 ^ 970 → y.isFinite = true →
    |q - x.toRat| ≤ |q - y.toRat|
  even (y : Binary64) : q < 2 ^ 1024 - 2 ^ 970 → y.isFinite = true →
    |q - x.toRat| = |q - y.toRat| → y.toRat = x.toRat ∨ x.pattern % 2 = 0

theorem Rounds.isNaN_eq_false (rounds : Rounds q x) : x.isNaN = false := by
  rw [isNaN, decide_eq_false_iff_not, not_lt]
  rcases le_or_gt (2 ^ 1024 - 2 ^ 970) q with large | small
  · rw [rounds.overflow large]
    decide +kernel
  · exact (of_decide_eq_true (rounds.finite small)).le

theorem magnitude_strictMono : StrictMono magnitude := fun n m less =>
  div_lt_div_of_pos_right (Nat.cast_lt.mpr (units_strictMono less)) (by positivity)

theorem magnitude_nonneg (n : Nat) : 0 ≤ magnitude n :=
  div_nonneg (Nat.cast_nonneg _) (by positivity)

/-- Midpoints of magnitudes against a ratio, with the denominators multiplied out. -/
private theorem magnitude_add_le {a b num den : Nat} (positive : 0 < den) :
    magnitude a + magnitude b ≤ 2 * (num / den) ↔
      (units a + units b) * den ≤ 2 * (num * 2 ^ 1074) := by
  have unit : (0 : ℚ) < 2 ^ 1074 := by positivity
  have parts : (0 : ℚ) < den := Nat.cast_pos.mpr positive
  rw [← Nat.cast_le (α := ℚ)]
  simp only [magnitude, Nat.cast_mul, Nat.cast_add, Nat.cast_pow, Nat.cast_ofNat]
  rw [← add_div, mul_div_assoc', div_le_div_iff₀ unit parts, mul_assoc 2]

private theorem le_magnitude_add {a b num den : Nat} (positive : 0 < den) :
    2 * (num / den) ≤ magnitude a + magnitude b ↔
      2 * (num * 2 ^ 1074) ≤ (units a + units b) * den := by
  have unit : (0 : ℚ) < 2 ^ 1074 := by positivity
  have parts : (0 : ℚ) < den := Nat.cast_pos.mpr positive
  rw [← Nat.cast_le (α := ℚ)]
  simp only [magnitude, Nat.cast_mul, Nat.cast_add, Nat.cast_pow, Nat.cast_ofNat]
  rw [← add_div, mul_div_assoc', div_le_div_iff₀ parts unit, mul_assoc 2]

/-- No pattern is nearer to a ratio than the one that covers it, and only an even one is
as near as another. -/
theorem Covers.nearest (covers : Covers p (num * 2 ^ 1074) den) (positive : 0 < den) (n : Nat) :
    |(num / den : ℚ) - magnitude p| ≤ |(num / den : ℚ) - magnitude n| ∧
      (|(num / den : ℚ) - magnitude p| = |(num / den : ℚ) - magnitude n| → n = p ∨ p % 2 = 0) := by
  have low := (magnitude_add_le positive).mpr covers.low
  have high := (le_magnitude_add positive).mpr covers.high
  rcases lt_trichotomy n p with less | rfl | more
  · have order := magnitude_strictMono less
    have previous : magnitude n ≤ magnitude (p - 1) := magnitude_strictMono.monotone (by omega)
    have far : |(num / den : ℚ) - magnitude n| = num / den - magnitude n :=
      abs_of_nonneg (by linarith)
    rw [far]
    constructor
    · exact abs_le.mpr ⟨by linarith, by linarith⟩
    · intro tie
      rcases abs_choice ((num / den : ℚ) - magnitude p) with sign | sign
      · linarith
      · refine .inr (covers.even_of_low (le_antisymm covers.low ?_))
        exact (le_magnitude_add positive).mp (by linarith)
  · exact ⟨le_rfl, fun _ => .inl rfl⟩
  · have order := magnitude_strictMono more
    have next : magnitude (p + 1) ≤ magnitude n := magnitude_strictMono.monotone (by omega)
    have far : |(num / den : ℚ) - magnitude n| = -(num / den - magnitude n) :=
      abs_of_nonpos (by linarith)
    rw [far]
    constructor
    · exact abs_le.mpr ⟨by linarith, by linarith⟩
    · intro tie
      rcases abs_choice ((num / den : ℚ) - magnitude p) with sign | sign
      · refine .inr (covers.even_of_high (le_antisymm covers.high ?_))
        exact (magnitude_add_le positive).mp (by linarith)
      · linarith

theorem overflow_le_iff (num : Nat) {den : Nat} (positive : 0 < den) :
    (2 ^ 1024 - 2 ^ 970 : ℚ) ≤ num / den ↔
      (2 ^ 54 - 1) * 2 ^ 2045 * den ≤ 2 * (num * 2 ^ 1074) := by
  have parts : (0 : ℚ) < den := Nat.cast_pos.mpr positive
  have unit : 0 < 2 * 2 ^ 1074 := by positivity
  have threshold : (2 ^ 1024 - 2 ^ 970 : ℚ) = ((2 ^ 54 - 1) * 2 ^ 970 : Nat) := by
    rw [Nat.cast_mul, Nat.cast_sub (by decide), Nat.cast_pow, Nat.cast_pow, Nat.cast_one,
      Nat.cast_ofNat, sub_mul, one_mul, ← pow_add]
  have units : 2 ^ 2045 = 2 ^ 970 * (2 * 2 ^ 1074) := by rw [← pow_succ', ← pow_add]
  have left : (2 ^ 54 - 1) * 2 ^ 2045 * den = (2 ^ 54 - 1) * 2 ^ 970 * den * (2 * 2 ^ 1074) := by
    rw [units, ← mul_assoc, mul_right_comm]
  have right : 2 * (num * 2 ^ 1074) = num * (2 * 2 ^ 1074) := mul_left_comm _ _ _
  rw [threshold, le_div_iff₀ parts, ← Nat.cast_mul, Nat.cast_le, left, right,
    Nat.mul_le_mul_right_iff unit]

theorem isNegative_ofPattern (small : n < 2 ^ 63) : (ofPattern n).isNegative = false := by
  simp only [isNegative, ofPattern, UInt64.toNat_ofNat', computed_pow, decide_eq_false_iff_not]
  omega

theorem ofPattern_pattern {x : Binary64} (unsigned : x.isNegative = false) :
    ofPattern x.pattern = x := by
  rcases x with ⟨bits⟩
  simp only [isNegative, computed_pow, decide_eq_false_iff_not] at unsigned
  simp only [ofPattern, pattern, computed_pow, Binary64.mk.injEq]
  rw [Nat.mod_eq_of_lt (by omega), UInt64.ofNat_toNat]

theorem toRat_ofPattern (small : n < 2 ^ 63) : (ofPattern n).toRat = magnitude n := by
  simp [toRat, isNegative_ofPattern small, pattern_ofPattern small]

/-- A magnitude that is not negative is no nearer to a negative number. -/
theorem abs_sub_magnitude_le (positive : 0 ≤ q) (y : Binary64) :
    |q - magnitude y.pattern| ≤ |q - y.toRat| := by
  have size := magnitude_nonneg y.pattern
  unfold toRat
  split
  · rw [sub_neg_eq_add, abs_of_nonneg (by linarith : 0 ≤ q + magnitude y.pattern)]
    exact abs_le.mpr ⟨by linarith, by linarith⟩
  · exact le_rfl

theorem rounds_of_covers (covers : Covers p (num * 2 ^ 1074) den) (positive : 0 < den) :
    Rounds (num / den) (ofPattern (min infinityPattern p)) := by
  have overflow := (overflow_le_iff num positive).trans (covers.overflow_iff positive).symm
  have ratio : (0 : ℚ) ≤ num / den := div_nonneg (Nat.cast_nonneg _) (Nat.cast_nonneg _)
  have pattern_lt : infinityPattern < 2 ^ 63 := by decide
  have small : min infinityPattern p < 2 ^ 63 := by omega
  have finite (below : (num / den : ℚ) < 2 ^ 1024 - 2 ^ 970) : p < infinityPattern := by
    rw [← not_le, ← overflow, not_le]
    exact below
  have value (below : (num / den : ℚ) < 2 ^ 1024 - 2 ^ 970) :
      min infinityPattern p = p := min_eq_right (finite below).le
  refine ⟨isNegative_ofPattern small, ?_, ?_, ?_, ?_⟩
  · intro above
    rw [min_eq_left (overflow.mp above)]
    rfl
  · intro below
    rw [isFinite, pattern_ofPattern small, value below]
    exact decide_eq_true (finite below)
  · intro y below _
    rw [toRat_ofPattern small, value below]
    exact (covers.nearest positive y.pattern).1.trans (abs_sub_magnitude_le ratio y)
  · intro y below _ tie
    rw [pattern_ofPattern small]
    rw [toRat_ofPattern small, value below] at tie ⊢
    obtain ⟨near, even⟩ := covers.nearest positive y.pattern
    rcases even (le_antisymm near (tie ▸ abs_sub_magnitude_le ratio y)) with same | even
    · left
      unfold toRat at tie ⊢
      rw [same] at tie ⊢
      split
      · rename_i negative
        -- A number and its opposite are as near only if both are zero.
        have zero := (covers.nearest positive 0).1
        have none : magnitude 0 = 0 := by simp [magnitude, units]
        have size := magnitude_nonneg p
        have sum : (0 : ℚ) ≤ num / den + magnitude p := by linarith
        rw [if_pos negative, sub_neg_eq_add, abs_of_nonneg sum] at tie
        rw [none, sub_zero, abs_of_nonneg ratio, tie] at zero
        linarith
      · rfl
    · exact .inr even

theorem rounds_nearest (num : Nat) {den : Nat} (positive : 0 < den) :
    Rounds (num / den) (Binary64.nearest num den) := by
  have covers := covers_roundEven (num * 2 ^ 1074) positive
  simp only [Binary64.nearest, computed_pow, nearestPattern_eq covers positive]
  exact rounds_of_covers covers positive

theorem toRat_of_unsigned {x : Binary64} (unsigned : x.isNegative = false) :
    x.toRat = magnitude x.pattern := by
  simp [toRat, unsigned]

/-- A ratio is not as near to two even patterns: a third pattern lies between them. -/
private theorem Rounds.not_lt_of_even (one : Rounds q x) (two : Rounds q y)
    (below : q < 2 ^ 1024 - 2 ^ 970) (even : x.pattern % 2 = 0) (other : y.pattern % 2 = 0)
    (tie : |q - x.toRat| = |q - y.toRat|) : ¬x.pattern < y.pattern := by
  intro less
  have last : y.pattern < infinityPattern := of_decide_eq_true (two.finite below)
  have range : infinityPattern < 2 ^ 63 := by decide
  have small : x.pattern + 1 < 2 ^ 63 := by omega
  have middle : (ofPattern (x.pattern + 1)).isFinite = true := by
    rw [isFinite, pattern_ofPattern small]
    exact decide_eq_true (by omega)
  have near := one.nearest _ below middle
  have first := magnitude_strictMono (show x.pattern < x.pattern + 1 by omega)
  have second := magnitude_strictMono (show x.pattern + 1 < y.pattern by omega)
  rw [toRat_ofPattern small, toRat_of_unsigned one.unsigned] at near
  rw [toRat_of_unsigned one.unsigned, toRat_of_unsigned two.unsigned] at tie
  rcases abs_eq_abs.mp tie with same | middle
  · linarith
  · rw [abs_of_nonneg (by linarith : 0 ≤ q - magnitude x.pattern)] at near
    have nearer : |q - magnitude (x.pattern + 1)| < q - magnitude x.pattern :=
      abs_lt.mpr ⟨by linarith, by linarith⟩
    linarith

theorem Rounds.unique (one : Rounds q x) (two : Rounds q y) : x = y := by
  by_cases above : 2 ^ 1024 - 2 ^ 970 ≤ q
  · rw [one.overflow above, two.overflow above]
  · have below := not_le.mp above
    have tie : |q - x.toRat| = |q - y.toRat| :=
      le_antisymm (one.nearest y below (two.finite below)) (two.nearest x below (one.finite below))
    have same : x.pattern = y.pattern := by
      rcases one.even y below (two.finite below) tie with equal | even
      · rw [toRat_of_unsigned one.unsigned, toRat_of_unsigned two.unsigned] at equal
        exact (magnitude_strictMono.injective equal).symm
      · rcases two.even x below (one.finite below) tie.symm with equal | other
        · rw [toRat_of_unsigned one.unsigned, toRat_of_unsigned two.unsigned] at equal
          exact magnitude_strictMono.injective equal
        · exact le_antisymm (not_lt.mp (two.not_lt_of_even one below other even tie.symm))
            (not_lt.mp (one.not_lt_of_even two below even other tie))
    rw [← ofPattern_pattern one.unsigned, same, ofPattern_pattern two.unsigned]

end CellArithmetic.Binary64
