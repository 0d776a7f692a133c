import CellArithmetic.Proofs.Decimal

/-! The canonical text of a number reads back as the number. The finest decimal grid meets
the range of every number, so a decimal of that range is found, and its positional text is a
literal of exactly this value. -/
namespace CellArithmetic

namespace Binary64

theorem halfUnits_eq : halfUnits = 2 * 2 ^ 1074 := by decide +kernel

-- From here on both are numbers like any other, too large to be computed with.
attribute [local irreducible] places halfUnits

namespace ReadingRange

theorem covers_iff {pattern num : Nat} :
    (ofPattern pattern).covers (2 * num) = true ↔ Covers pattern num (10 ^ places) := by
  unfold covers ofPattern
  by_cases even : pattern % 2 = 0
  · simp only [even, BEq.rfl, if_true, Bool.and_eq_true, decide_eq_true_eq]
    simp only [computed_pow]
    constructor
    · rintro ⟨low, high⟩
      exact ⟨low, high, fun _ => even, fun _ => even⟩
    · intro covers
      exact ⟨covers.low, covers.high⟩
  · have odd : (pattern % 2 == 0) = false := beq_eq_false_iff_ne.mpr even
    simp only [odd, Bool.false_eq_true, if_false, Bool.and_eq_true, decide_eq_true_eq]
    simp only [computed_pow]
    constructor
    · rintro ⟨low, high⟩
      exact ⟨low.le, high.le, fun tie => absurd tie low.ne, fun tie => absurd tie high.ne⟩
    · intro covers
      exact ⟨lt_of_le_of_ne covers.low fun tie => even (covers.even_of_low tie),
        lt_of_le_of_ne covers.high fun tie => even (covers.even_of_high tie)⟩

theorem nearestOn?_eq_some {range : ReadingRange} (found : range.nearestOn? step = some x) :
    range.covers x = true ∧ step ∣ x := by
  have below : step ∣ range.value / step * step := Nat.dvd_mul_left _ _
  have above : step ∣ range.value / step * step + step := Nat.dvd_add below (Nat.dvd_refl step)
  unfold nearestOn? at found
  dsimp only at found
  split at found
  · rename_i coversBelow coversAbove
    cases found
    split
    · exact ⟨coversBelow, below⟩
    · exact ⟨coversAbove, above⟩
  · rename_i coversBelow _
    cases found
    exact ⟨coversBelow, below⟩
  · rename_i _ coversAbove
    cases found
    exact ⟨coversAbove, above⟩
  · cases found

/-- A grid meets the range if it is no coarser than the range below the value is wide. -/
theorem nearestOn?_ne_none {range : ReadingRange} (positive : 0 < step)
    (wide : range.low + step ≤ range.value) (inside : range.value < range.high) :
    range.nearestOn? step ≠ none := by
  have floor := Nat.div_mul_le_self range.value step
  have next := Nat.lt_div_mul_add (a := range.value) positive
  have covered : range.covers (range.value / step * step) = true := by
    unfold covers
    split
    · simp only [Bool.and_eq_true, decide_eq_true_eq]
      omega
    · simp only [Bool.and_eq_true, decide_eq_true_eq]
      omega
  unfold nearestOn?
  dsimp only
  rw [covered]
  split <;> simp_all

theorem meets_finest (positive : 0 < p) :
    (ofPattern p).nearestOn? (halfUnits) ≠ none := by
  obtain ⟨previous, rfl⟩ : ∃ previous, p = previous + 1 := ⟨p - 1, by omega⟩
  have step : units previous < units (previous + 1) := units_strictMono (Nat.lt_succ_self _)
  have next : units (previous + 1) < units (previous + 1 + 1) := units_strictMono (Nat.lt_succ_self _)
  have fine : halfUnits ≤ 10 ^ places := by decide +kernel
  simp only [ofPattern, computed_pow]
  apply nearestOn?_ne_none (by decide +kernel)
  · calc (units previous + units (previous + 1)) * 10 ^ places + halfUnits
        ≤ (units previous + units (previous + 1)) * 10 ^ places + 10 ^ places :=
          Nat.add_le_add_left fine _
      _ = (units previous + units (previous + 1) + 1) * 10 ^ places := by rw [Nat.add_one_mul]
      _ ≤ 2 * units (previous + 1) * 10 ^ places := Nat.mul_le_mul_right _ (by omega)
  · exact Nat.mul_lt_mul_of_pos_right (by omega) (Nat.pow_pos (by decide))

theorem onCoarsestGrid_covers {range : ReadingRange} (meets : range.nearestOn? (halfUnits) ≠ none)
    (exponent : Nat) :
    range.covers (range.onCoarsestGrid exponent) = true ∧ halfUnits ∣ range.onCoarsestGrid exponent := by
  induction exponent with
  | zero =>
    obtain ⟨x, found⟩ := Option.ne_none_iff_exists'.mp meets
    simp only [onCoarsestGrid, found]
    exact nearestOn?_eq_some found
  | succ exponent ih =>
    simp only [onCoarsestGrid, computed_pow]
    split
    · rename_i x found
      obtain ⟨covered, multiple⟩ := nearestOn?_eq_some found
      exact ⟨covered, Nat.dvd_trans (Nat.dvd_mul_left _ _) multiple⟩
    · exact ih

end ReadingRange

theorem covers_shortest (p : Nat) : Covers p (shortest p * 2 ^ 1074) (10 ^ places) := by
  by_cases zero : p = 0
  · subst zero
    rw [show shortest 0 = 0 from rfl, Nat.zero_mul]
    exact covers_zero _
  · have grid : shortest p =
        (ReadingRange.ofPattern p).onCoarsestGrid (places + 308) / halfUnits := by
      rw [shortest, if_neg zero]
    have meets := ReadingRange.meets_finest (Nat.pos_of_ne_zero zero)
    obtain ⟨covered, multiple⟩ := ReadingRange.onCoarsestGrid_covers meets (places + 308)
    rw [grid, ← ReadingRange.covers_iff, mul_left_comm, ← halfUnits_eq, Nat.div_mul_cancel multiple]
    exact covered

theorem rounds_shortest (finite : p < infinityPattern) :
    Rounds (shortest p / 10 ^ places) (ofPattern p) := by
  have rounds := rounds_of_covers (covers_shortest p) (Nat.pow_pos (by decide))
  rw [min_eq_right finite.le, Nat.cast_pow, Nat.cast_ofNat] at rounds
  exact rounds

/-- Zeros at the end are all that the digits behind the point lose. -/
theorem fractionDigits_append_zeros (small : n < 10 ^ width) (positive : 0 < width) :
    ∃ zeros, (fractionDigits width n).length + zeros = width ∧
      Nat.ofDigitChars 10 (fractionDigits width n ++ List.replicate zeros '0') 0 = n := by
  have short := (Nat.length_toDigits_le_iff (by decide) positive).mpr small
  let padded := List.replicate (width - (Nat.toDigits 10 n).length) '0' ++ Nat.toDigits 10 n
  have zeros : padded.reverse.takeWhile (· == '0') =
      List.replicate (padded.reverse.takeWhile (· == '0')).length '0' :=
    List.eq_replicate_of_mem fun c member => by simpa using List.mem_takeWhile_imp member
  have whole : fractionDigits width n ++
      List.replicate (padded.reverse.takeWhile (· == '0')).length '0' = padded := by
    rw [← List.reverse_replicate, ← zeros, fractionDigits, ← List.reverse_append,
      List.takeWhile_append_dropWhile, List.reverse_reverse]
  refine ⟨(padded.reverse.takeWhile (· == '0')).length, ?_, ?_⟩
  · have size := congrArg List.length whole
    simp only [List.length_append, List.length_replicate, padded] at size ⊢
    omega
  · rw [whole, Nat.ofDigitChars_append, Nat.ofDigitChars_replicate_zero, Nat.mul_zero,
      Nat.ofDigitChars_ten_toDigits]

theorem isDigit_of_mem_fractionDigits (member : c ∈ fractionDigits width n) : c.isDigit = true := by
  have inside := (List.dropWhile_sublist _).subset (List.mem_reverse.mp member)
  rcases List.mem_append.mp (List.mem_reverse.mp inside) with zero | digit
  · rw [List.eq_of_mem_replicate zero]
    rfl
  · exact Nat.isDigit_of_mem_toDigits (by decide) (by decide) digit

end Binary64

namespace Literal

open Binary64

/-- The literal of `n / 10 ^ width`, written out without a power. -/
def positional (width n : Nat) : Literal where
  whole := Nat.toDigits 10 (n / 10 ^ width)
  fraction :=
    let digits := fractionDigits width (n % 10 ^ width)
    if digits.isEmpty then none else some digits
  power := none

theorem text_positional (width n : Nat) : (positional width n).text = Binary64.positional width n := by
  simp only [positional, text, Binary64.positional, computed_pow]
  split <;> simp_all

theorem wellFormed_positional (width n : Nat) : (positional width n).WellFormed where
  whole _ := Nat.isDigit_of_mem_toDigits (by decide) (by decide)
  fraction := by
    intro digits found c member
    simp only [positional] at found
    split at found
    · cases found
    · cases found
      exact isDigit_of_mem_fractionDigits member
  filled := .inl Nat.toDigits_ne_nil
  power _ found := by cases found

theorem exact_positional (positive : 0 < width) (n : Nat) :
    (positional width n).exact = n / 10 ^ width := by
  have fraction : (positional width n).fraction.getD [] = fractionDigits width (n % 10 ^ width) := by
    simp only [positional]
    split
    · rename_i empty
      exact (List.isEmpty_iff.mp empty).symm
    · rfl
  have small : n % 10 ^ width < 10 ^ width := Nat.mod_lt n (Nat.pow_pos (by decide))
  obtain ⟨zeros, size, value⟩ := fractionDigits_append_zeros small positive
  have digits : Nat.ofDigitChars 10 (fractionDigits width (n % 10 ^ width)) 0 * 10 ^ zeros =
      n % 10 ^ width := by
    rw [Nat.ofDigitChars_append, Nat.ofDigitChars_replicate_zero, mul_comm] at value
    exact value
  rw [exact, fraction]
  generalize fractionDigits width (n % 10 ^ width) = places at *
  have number : Nat.ofDigitChars 10 ((positional width n).whole ++ places) 0 * 10 ^ zeros = n :=
    calc Nat.ofDigitChars 10 ((positional width n).whole ++ places) 0 * 10 ^ zeros
        = (10 ^ places.length * (n / 10 ^ width) + Nat.ofDigitChars 10 places 0) * 10 ^ zeros := by
          rw [Nat.ofDigitChars_append, Nat.ofDigitChars_eq_ofDigitChars_zero, positional,
            Nat.ofDigitChars_ten_toDigits]
      _ = 10 ^ width * (n / 10 ^ width) + n % 10 ^ width := by
          rw [add_mul, digits, mul_right_comm, ← pow_add, size]
      _ = n := Nat.div_add_mod n _
  have power : (10 : ℚ) ^ ((positional width n).power.elim 0 Power.value - places.length : Int) =
      10 ^ zeros / 10 ^ width := by
    rw [eq_div_iff (by positivity), ← zpow_natCast 10 width, ← zpow_add₀ (by norm_num), ← zpow_natCast]
    congr 1
    simp only [positional, Option.elim_none]
    omega
  rw [power, ← mul_div_assoc, ← Nat.cast_ofNat (R := ℚ), ← Nat.cast_pow, ← Nat.cast_mul, number]

end Literal

namespace Token

/-- Written numbers have no sign, since a sign is an operator. -/
theorem Spelled.unsigned (spelled : Spelled (.number x) lexeme) : x.isNegative = false := by
  cases spelled with
  | number formed => exact (Literal.rounds_value formed).unsigned

/-- A finite number without a sign is spelled by its canonical text. -/
theorem spelled_text {x : Binary64} (unsigned : x.isNegative = false) (finite : x.isFinite = true) :
    Spelled (.number x) x.text.toList := by
  have small : x.pattern < Binary64.infinityPattern := of_decide_eq_true finite
  have formed := Literal.wellFormed_positional Binary64.places (Binary64.shortest x.pattern)
  have text : (Literal.positional Binary64.places (Binary64.shortest x.pattern)).text =
      x.text.toList := by
    have number : x.isNaN = false := decide_eq_false (Nat.not_lt.mpr small.le)
    simp [Literal.text_positional, Binary64.text, number, unsigned, finite]
  have value : (Literal.positional Binary64.places (Binary64.shortest x.pattern)).value = x := by
    have computed := Literal.rounds_value formed
    rw [Literal.exact_positional (by decide)] at computed
    rw [computed.unique (Binary64.rounds_shortest small), Binary64.ofPattern_pattern unsigned]
  have spelled := Spelled.number formed
  rw [text, value] at spelled
  exact spelled

end Token

end CellArithmetic
