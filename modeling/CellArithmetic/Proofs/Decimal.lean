import CellArithmetic.Binary64.Shortest
import CellArithmetic.Proofs.Digits
import CellArithmetic.Proofs.Rounding
import CellArithmetic.Proofs.Spelling

/-! Written decimals and numbers. A literal denotes its exact value correctly rounded, and
the canonical text of a finite number is a literal that denotes this number again. -/
namespace CellArithmetic

open Digits

namespace Binary64

/-- Far below half the least number, a ratio is rounded to zero. -/
theorem rounds_zero {num den : Nat} (small : num * 10 ^ 331 ≤ den) (positive : 0 < den) :
    Rounds (num / den : ℚ) (ofPattern 0) := by
  have least : 2 * 2 ^ 1074 ≤ 10 ^ 331 := by decide +kernel
  have covers : Covers 0 (num * 2 ^ 1074) den := by
    have zero : units 0 = 0 := by simp [units]
    have one : units 1 = 1 := by simp [units]
    refine ⟨by rw [Nat.zero_sub, zero, Nat.zero_mul]; exact Nat.zero_le _, ?_,
      fun _ => rfl, fun _ => rfl⟩
    calc 2 * (num * 2 ^ 1074) = num * (2 * 2 ^ 1074) := mul_left_comm _ _ _
      _ ≤ num * 10 ^ 331 := Nat.mul_le_mul_left num least
      _ ≤ den := small
      _ = (units 0 + units (0 + 1)) * den := by rw [zero, one, Nat.zero_add, Nat.one_mul]
  exact rounds_of_covers covers positive

theorem rounds_infinity (large : 10 ^ 310 ≤ q) : Rounds q infinity := by
  have bound : (2 ^ 1024 - 2 ^ 970 : ℚ) ≤ q := by
    have powers : (2 ^ 1024 : ℚ) ≤ 10 ^ 310 := by
      have naturals : 2 ^ 1024 ≤ 10 ^ 310 := by decide +kernel
      exact_mod_cast naturals
    have positive : (0 : ℚ) ≤ 2 ^ 970 := by positivity
    exact (sub_le_self _ positive).trans (powers.trans large)
  exact ⟨by decide +kernel, fun _ => rfl, fun below => absurd bound (not_le.mpr below),
    fun _ below => absurd bound (not_le.mpr below), fun _ below => absurd bound (not_le.mpr below)⟩

/-- The early answer for a whole decimal that is far out of range is the rounded one. -/
private theorem rounds_whole {mantissa : Nat} (low : 10 ^ size ≤ mantissa) (power : Nat) :
    Rounds (mantissa * 10 ^ power) (if 310 < ((size + 1 : Nat) + power : Int) then infinity
      else nearest (mantissa * 10 ^ power) 1) := by
  split
  · rename_i huge
    apply rounds_infinity
    have exponents : 310 ≤ size + power := by omega
    calc (10 : ℚ) ^ 310 ≤ 10 ^ (size + power) := pow_le_pow_right₀ (by norm_num) exponents
      _ = 10 ^ size * 10 ^ power := pow_add _ _ _
      _ ≤ mantissa * 10 ^ power :=
        mul_le_mul_of_nonneg_right (by exact_mod_cast low) (by positivity)
  · simpa using rounds_nearest (mantissa * 10 ^ power) (Nat.zero_lt_one)

/-- So are the two early answers for a decimal with places behind the point. -/
private theorem rounds_fraction {mantissa : Nat} (low : 10 ^ size ≤ mantissa)
    (high : mantissa < 10 ^ (size + 1)) (power : Nat) :
    Rounds (mantissa / 10 ^ power) (if ((size + 1 : Nat) - power : Int) < -330 then ofPattern 0
      else if 310 < ((size + 1 : Nat) - power : Int) then infinity
      else nearest mantissa (10 ^ power)) := by
  have positive : 0 < 10 ^ power := Nat.pow_pos (by decide)
  split
  · rename_i tiny
    have exponents : size + 1 + 331 ≤ power := by omega
    have small : mantissa * 10 ^ 331 ≤ 10 ^ power :=
      calc mantissa * 10 ^ 331 ≤ 10 ^ (size + 1) * 10 ^ 331 := Nat.mul_le_mul_right _ high.le
        _ = 10 ^ (size + 1 + 331) := (pow_add _ _ _).symm
        _ ≤ 10 ^ power := Nat.pow_le_pow_right (by decide) exponents
    have rounded := rounds_zero small positive
    rw [Nat.cast_pow, Nat.cast_ofNat] at rounded
    exact rounded
  · split
    · rename_i huge
      apply rounds_infinity
      have exponents : 310 + power ≤ size := by omega
      rw [le_div_iff₀ (by positivity), ← pow_add]
      calc (10 : ℚ) ^ (310 + power) ≤ 10 ^ size := pow_le_pow_right₀ (by norm_num) exponents
        _ ≤ mantissa := by exact_mod_cast low
    · simpa using rounds_nearest mantissa positive

/-- What is computed for a decimal is its correctly rounded value. -/
theorem rounds_ofDecimal (digit : ∀ c ∈ digits, c.isDigit = true) (exponent : Int) :
    Rounds (Nat.ofDigitChars 10 digits 0 * 10 ^ exponent) (ofDecimal digits exponent) := by
  rw [← ofDigitChars_dropWhile]
  simp only [ofDecimal]
  have digit' : ∀ c ∈ digits.dropWhile (· == '0'), c.isDigit = true :=
    fun c member => digit c ((List.dropWhile_sublist _).subset member)
  have lead := Text.stops_dropWhile (· == '0') digits
  generalize digits.dropWhile (· == '0') = significant at *
  cases significant with
  | nil =>
    have zero : Rounds ((0 : Nat) / (1 : Nat) : ℚ) (ofPattern 0) :=
      rounds_zero ((Nat.zero_mul _).trans_le (Nat.zero_le 1)) Nat.zero_lt_one
    simpa using zero
  | cons c rest =>
    have low := le_ofDigitChars (digit' c (by simp)) (by simpa using Text.stops_cons.mp lead) rest
    have high := ofDigitChars_lt digit'
    generalize Nat.ofDigitChars 10 (c :: rest) 0 = mantissa at *
    simp only [List.isEmpty_cons, Bool.false_or, decide_eq_true_eq, List.length_cons] at high ⊢
    cases exponent with
    | ofNat power =>
      rw [Int.ofNat_eq_natCast, zpow_natCast, if_neg (by omega)]
      exact rounds_whole low power
    | negSucc power =>
      rw [zpow_negSucc, ← div_eq_mul_inv]
      exact rounds_fraction low high (power + 1)

end Binary64

namespace Literal

/-- The number that is written, before it is rounded. -/
def exact (literal : Literal) : ℚ :=
  Nat.ofDigitChars 10 (literal.whole ++ literal.fraction.getD []) 0 *
    10 ^ (literal.power.elim 0 Power.value - (literal.fraction.getD []).length : Int)

theorem rounds_value {literal : Literal} (formed : literal.WellFormed) :
    Binary64.Rounds literal.exact literal.value := by
  apply Binary64.rounds_ofDecimal
  intro c member
  rcases List.mem_append.mp member with whole | fraction
  · exact formed.whole c whole
  · cases same : literal.fraction with
    | none =>
      rw [same] at fraction
      cases fraction
    | some digits =>
      rw [same] at fraction
      exact formed.fraction digits same c fraction

end Literal

end CellArithmetic
