import CellArithmetic.Proofs.Extent
import CellArithmetic.Proofs.Printing

/-! Canonical texts of numbers. Such a text has no needless zero and no exponent, it is scanned
as the one number that it is the text of, and so it tells this number from all others. -/
namespace CellArithmetic

open Digits

theorem Binary64.getLast_fractionDigits_ne_zero (filled : fractionDigits width n ≠ []) :
    (fractionDigits width n).getLast filled ≠ '0' := fun zero =>
  List.rdropWhile_last_not (· == '0') _ filled (beq_iff_eq.mpr zero)

namespace Literal

theorem Denotes.of_read {value : Binary64} (front : starts s = true) (whole : (read s).1.text = s)
    (found : (read s).1.value = value) : Denotes s value := by
  have formed := wellFormed_read front
  have denotes := Denotes.mk formed (rounds_value formed)
  rwa [whole, found] at denotes

/-- Numbers in canonical form: `(0|[1-9][0-9]*)(\.[0-9]*[1-9])?`. -/
inductive IsCanonical : List Char → Prop where
  | whole (plain : Plain digits) : IsCanonical digits
  | places (plain : Plain digits) (front : ∀ c ∈ decimals, c.isDigit = true)
      (last : c.isDigit = true) (nonzero : c ≠ '0') : IsCanonical (digits ++ '.' :: (decimals ++ [c]))

theorem isCanonical_positional (width n : Nat) : IsCanonical (Binary64.positional width n) := by
  unfold Binary64.positional
  dsimp only
  generalize n % Nat.pow 10 width = rest
  have plain := plain_toDigits (n / Nat.pow 10 width)
  by_cases bare : Binary64.fractionDigits width rest = []
  · rw [bare]
    simpa using IsCanonical.whole plain
  · have digit : ∀ c ∈ Binary64.fractionDigits width rest, c.isDigit = true :=
      fun c => Binary64.isDigit_of_mem_fractionDigits
    rw [if_neg (by simpa using bare), ← List.dropLast_concat_getLast bare]
    exact .places plain (fun c member => digit c (List.dropLast_subset _ member))
      (digit _ (List.getLast_mem bare)) (Binary64.getLast_fractionDigits_ne_zero bare)

end Literal

namespace Binary64

theorem text_of_finite {x : Binary64} (unsigned : x.isNegative = false) (finite : x.isFinite = true) :
    x.text = String.ofList (positional places (shortest x.pattern)) := by
  have number : x.isNaN = false := decide_eq_false (Nat.not_lt.mpr (of_decide_eq_true finite).le)
  simp [text, number, unsigned, finite]

theorem scan_text {x : Binary64} (unsigned : x.isNegative = false) (finite : x.isFinite = true) :
    scan x.text = [⟨.number x, x.text, .start⟩] := by
  have placed := Placed.single .start (Token.spelled_text unsigned finite)
  have trace := placed.trace (.singleton _)
  rw [scan, Cursor.ofText, trace.drain_eq, String.ofList_toList]

/-- What is no finite number and has no sign is the one infinity. -/
theorem eq_infinity {x : Binary64} (unsigned : x.isNegative = false) (number : x.isNaN = false)
    (infinite : x.isFinite = false) : x = infinity := by
  have above := of_decide_eq_false infinite
  have below := of_decide_eq_false number
  have same : x.pattern = infinityPattern := Nat.le_antisymm (Nat.not_lt.mp below) (Nat.not_lt.mp above)
  rw [← ofPattern_pattern unsigned, same]
  rfl

theorem text_ne_of_finite {x : Binary64} (unsigned : x.isNegative = false)
    (finite : x.isFinite = true) : x.text ≠ infinity.text := by
  intro same
  have scanned := scan_text unsigned finite
  rw [same] at scanned
  have word : scan infinity.text = [⟨.unrecognized "inf", "inf", .start⟩] := by decide +kernel
  rw [word] at scanned
  cases scanned

/-- Without signs, numbers of one text are the same. -/
theorem text_injective {x y : Binary64} (unsigned : x.isNegative = false) (number : x.isNaN = false)
    (unsigned' : y.isNegative = false) (number' : y.isNaN = false) (same : x.text = y.text) : x = y := by
  cases finite : x.isFinite with
  | false =>
    rw [eq_infinity unsigned number finite] at same ⊢
    cases finite' : y.isFinite with
    | false => exact (eq_infinity unsigned' number' finite').symm
    | true => exact absurd same.symm (text_ne_of_finite unsigned' finite')
  | true =>
    cases finite' : y.isFinite with
    | false =>
      rw [eq_infinity unsigned' number' finite'] at same
      exact absurd same (text_ne_of_finite unsigned finite)
    | true =>
      have scanned := scan_text unsigned finite
      rw [same, scan_text unsigned' finite'] at scanned
      exact (Token.number.inj (congrArg Occurrence.token (List.singleton_inj.mp scanned))).symm

/-- The canonical text of a finite number is scanned as this number and nothing else, and two
literals have one canonical text just when they are rounded to the same bits. -/
theorem text_tells_number :
    (∀ x : Binary64, x.isNegative = false → x.isFinite = true →
      Literal.IsCanonical x.text.toList ∧ scan x.text = [⟨.number x, x.text, .start⟩]) ∧
    ∀ s t x y, Literal.Denotes s x → Literal.Denotes t y → (x.text = y.text ↔ x.bits = y.bits) := by
  constructor
  · intro x unsigned finite
    refine ⟨?_, scan_text unsigned finite⟩
    rw [text_of_finite unsigned finite, String.toList_ofList]
    exact Literal.isCanonical_positional _ _
  · intro s t x y denotes denotes'
    constructor
    · intro same
      obtain ⟨number, unsigned⟩ := denotes.unsigned
      obtain ⟨number', unsigned'⟩ := denotes'.unsigned
      rw [text_injective unsigned number unsigned' number' same]
    · intro same
      rw [show x = y from congrArg Binary64.mk same]

/-- The odd number above `2 ^ 53` is a tie and rounded down, the even one is exact. -/
theorem text_tells_number_tie :
    Literal.Denotes "9007199254740993".toList ⟨0x4340000000000000⟩ ∧
    Literal.Denotes "9007199254740994".toList ⟨0x4340000000000001⟩ ∧
    Binary64.text ⟨0x4340000000000000⟩ ≠ Binary64.text ⟨0x4340000000000001⟩ ∧
    Literal.IsCanonical (Binary64.text ⟨0x4340000000000000⟩).toList ∧
    scan (Binary64.text ⟨0x4340000000000000⟩) =
      [⟨.number ⟨0x4340000000000000⟩, Binary64.text ⟨0x4340000000000000⟩, .start⟩] := by
  have odd : Literal.Denotes "9007199254740993".toList ⟨0x4340000000000000⟩ :=
    .of_read rfl (by decide +kernel) (by decide +kernel)
  have even : Literal.Denotes "9007199254740994".toList ⟨0x4340000000000001⟩ :=
    .of_read rfl (by decide +kernel) (by decide +kernel)
  refine ⟨odd, even, ?_, text_tells_number.1 _ rfl rfl⟩
  intro same
  have bits := (text_tells_number.2 _ _ _ _ odd even).mp same
  cases bits

end Binary64

end CellArithmetic
