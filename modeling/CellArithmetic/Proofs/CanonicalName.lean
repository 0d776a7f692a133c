import CellArithmetic.Proofs.Digits
import CellArithmetic.Proofs.Spelling

/-! Canonical names of cells. A canonical name is a name again, and two names share it
exactly when they name the same cell. -/
namespace CellArithmetic

namespace Text

theorem isUpper_iff_toNat {c : Char} : c.isUpper = true ↔ 65 ≤ c.toNat ∧ c.toNat ≤ 90 := by
  change decide (65 ≤ c.val ∧ c.val ≤ 90) = true ↔ _
  simp [UInt32.le_iff_toNat_le]

/-- Small letters stand thirty-two code points behind their capitals; only they are changed. -/
theorem toNat_toUpper (c : Char) :
    c.toUpper.toNat = if 97 ≤ c.toNat ∧ c.toNat ≤ 122 then c.toNat - 32 else c.toNat := by
  have small : ('a'.val ≤ c.val ∧ c.val ≤ 'z'.val) ↔ 97 ≤ c.toNat ∧ c.toNat ≤ 122 := by
    simp [UInt32.le_iff_toNat_le]
  unfold Char.toUpper
  split
  · rename_i inside
    have range := small.mp inside
    -- the distance is subtracted by adding its complement
    have complement : ('A'.val - 'a'.val).toNat = 2 ^ 32 - 32 := by decide
    have sum : (c.val + ('A'.val - 'a'.val)).toNat = c.toNat - 32 := by
      rw [UInt32.toNat_add, complement, Char.toNat_val]
      omega
    rw [if_pos range]
    exact sum
  · rename_i outside
    rw [if_neg (mt small.mpr outside)]

theorem isAlpha_toUpper (c : Char) : c.toUpper.isAlpha = c.isAlpha := by
  rw [Bool.eq_iff_iff, isAlpha_iff_toNat, isAlpha_iff_toNat, toNat_toUpper]
  split <;> omega

theorem isUpper_toUpper (c : Char) : c.toUpper.isUpper = c.isAlpha := by
  rw [Bool.eq_iff_iff, isUpper_iff_toNat, isAlpha_iff_toNat, toNat_toUpper]
  split <;> omega

theorem toUpper_toUpper (c : Char) : c.toUpper.toUpper = c.toUpper := by
  rw [← Char.toNat_inj, toNat_toUpper, toNat_toUpper]
  split
  · rw [if_neg (by omega)]
  · rfl

theorem map_toUpper_toUpper (s : List Char) :
    (s.map Char.toUpper).map Char.toUpper = s.map Char.toUpper := by
  rw [List.map_map]
  exact List.map_congr_left fun c _ => toUpper_toUpper c

end Text

namespace CellName

open Digits Text

def column (name : String) : List Char := name.toList.takeWhile Char.isAlpha

/-- The number that the digits of a name denote. -/
def row (name : String) : Nat := Nat.ofDigitChars 10 (name.toList.dropWhile Char.isAlpha) 0

/-- Letters that are equal up to case, and digits that denote one number. -/
def SameCell (a b : String) : Prop :=
  (column a).map Char.toUpper = (column b).map Char.toUpper ∧ row a = row b

section Parts

variable {letters digits : List Char} (alpha : ∀ c ∈ letters, c.isAlpha = true)
  (number : digits ≠ []) (digit : ∀ c ∈ digits, c.isDigit = true)

include alpha number digit

theorem column_ofList : column (String.ofList (letters ++ digits)) = letters := by
  rw [column, String.toList_ofList]
  exact takeWhile_append alpha (by simpa using stops_digits number digit [])

theorem row_ofList :
    row (String.ofList (letters ++ digits)) = Nat.ofDigitChars 10 digits 0 := by
  rw [row, String.toList_ofList]
  rw [dropWhile_append alpha (by simpa using stops_digits number digit [])]

theorem canonical_ofList : canonical (String.ofList (letters ++ digits)) =
    String.ofList (letters.map Char.toUpper ++ trimmed digits) := by
  have lead : ∀ c ∈ letters, (!c.isDigit) = true := by
    intro c member
    cases digit : c.isDigit with
    | false => rfl
    | true => exact absurd (alpha c member) (Bool.eq_false_iff.mp (not_alpha_of_digit digit))
  have stops : Stops (fun c => !c.isDigit) digits := by
    obtain ⟨c, rest, rfl⟩ := List.exists_cons_of_ne_nil number
    exact stops_cons.mpr (by simp [digit c (by simp)])
  simp only [canonical, String.toList_ofList, takeWhile_append lead stops,
    dropWhile_append lead stops]
  rfl

end Parts

theorem alpha_of_mem_map_toUpper {letters : List Char} (alpha : ∀ c ∈ letters, c.isAlpha = true) :
    ∀ c ∈ letters.map Char.toUpper, c.isAlpha = true := by
  intro c member
  obtain ⟨d, inside, rfl⟩ := List.mem_map.mp member
  rw [isAlpha_toUpper, alpha d inside]

theorem isName_canonical (named : IsName name) :
    IsName (canonical (String.ofList name)).toList := by
  obtain ⟨letter, alpha, number, digit⟩ := named
  rw [canonical_ofList alpha number digit, String.toList_ofList]
  exact .mk (by simpa using letter) (alpha_of_mem_map_toUpper alpha) (trimmed_ne_nil _)
    fun c member => isDigit_of_mem_trimmed digit member

/-- Two names have one canonical name exactly when they name the same cell. -/
theorem canonical_eq_iff (named : IsName a) (named' : IsName b) :
    canonical (String.ofList a) = canonical (String.ofList b) ↔
      SameCell (String.ofList a) (String.ofList b) := by
  obtain @⟨letters, digits, _, alpha, number, digit⟩ := named
  obtain @⟨letters', digits', _, alpha', number', digit'⟩ := named'
  rw [SameCell, column_ofList alpha number digit, column_ofList alpha' number' digit',
    row_ofList alpha number digit, row_ofList alpha' number' digit',
    canonical_ofList alpha number digit, canonical_ofList alpha' number' digit',
    ← trimmed_eq_iff digit digit']
  constructor
  · intro same
    have upper := column_ofList (alpha_of_mem_map_toUpper alpha) (trimmed_ne_nil digits)
      fun c => isDigit_of_mem_trimmed digit
    have upper' := column_ofList (alpha_of_mem_map_toUpper alpha') (trimmed_ne_nil digits')
      fun c => isDigit_of_mem_trimmed digit'
    rw [same, upper'] at upper
    refine ⟨upper.symm, ?_⟩
    rw [upper] at same
    exact List.append_cancel_left (String.ofList_injective same)
  · rintro ⟨upper, trimmed⟩
    rw [upper, trimmed]

theorem canonical_canonical (named : IsName name) :
    canonical (canonical (String.ofList name)) = canonical (String.ofList name) := by
  obtain @⟨letters, digits, _, alpha, number, digit⟩ := named
  have digit' : ∀ c ∈ trimmed digits, c.isDigit = true := fun c => isDigit_of_mem_trimmed digit
  rw [canonical_ofList alpha number digit,
    canonical_ofList (alpha_of_mem_map_toUpper alpha) (trimmed_ne_nil digits) digit']
  congr 2
  · exact map_toUpper_toUpper letters
  · exact (trimmed_eq_iff digit' digit).mpr (ofDigitChars_trimmed digits)

/-- Canonical names: `[A-Z]+(0|[1-9][0-9]*)`. -/
inductive IsCanonical : List Char → Prop where
  | mk (letter : letters ≠ []) (upper : ∀ c ∈ letters, c.isUpper = true) (plain : Plain digits) :
      IsCanonical (letters ++ digits)

theorem isCanonical_canonical (named : IsName name) :
    IsCanonical (canonical (String.ofList name)).toList := by
  obtain ⟨letter, alpha, number, digit⟩ := named
  rw [canonical_ofList alpha number digit, String.toList_ofList]
  refine .mk (by simpa using letter) ?_ (plain_trimmed digit)
  intro c member
  obtain ⟨d, inside, rfl⟩ := List.mem_map.mp member
  rw [isUpper_toUpper, alpha d inside]

/-- The canonical name says which cell is named: up to the case of the letters and to leading
zeros of the digits, and to nothing else. -/
theorem canonical_tells_cell (named : IsName a.toList) (named' : IsName b.toList) :
    (canonical a = canonical b ↔ SameCell a b) ∧
    IsCanonical (canonical a).toList ∧ canonical (canonical a) = canonical a := by
  have same := canonical_eq_iff named named'
  have form := isCanonical_canonical named
  have again := canonical_canonical named
  simp only [String.ofList_toList] at same form again
  exact ⟨same, form, again⟩

/-- The digits are all zeros in both names, but not as many. -/
theorem canonical_tells_cell_zero : IsName "aB000".toList ∧ IsName "Ab0".toList ∧
    (canonical "aB000" = canonical "Ab0" ↔ SameCell "aB000" "Ab0") ∧
    IsCanonical (canonical "aB000").toList ∧ canonical (canonical "aB000") = canonical "aB000" := by
  have named : IsName (['a', 'B'] ++ ['0', '0', '0']) :=
    .mk (by simp) (List.all_eq_true.mp rfl) (by simp) (List.all_eq_true.mp rfl)
  have named' : IsName (['A', 'b'] ++ ['0']) :=
    .mk (by simp) (List.all_eq_true.mp rfl) (by simp) (List.all_eq_true.mp rfl)
  exact ⟨named, named', canonical_tells_cell named named'⟩

example : canonical "aB000" = "AB0" ∧ canonical "ab10" ≠ canonical "ab1" := by decide +kernel

end CellName

end CellArithmetic
