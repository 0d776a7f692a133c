import Mathlib.Tactic.Linarith

/-! Digit strings as numbers. Leading zeros do not count, and without them the string is
determined by its number. The digits that a number is written out in have none. -/
namespace CellArithmetic.Digits

theorem toNat_range (digit : Char.isDigit c = true) : 48 ≤ c.toNat ∧ c.toNat ≤ 57 :=
  Char.isDigit_iff_toNat.mp digit

/-- The first digit counts for the power of ten that the others stay below. -/
theorem ofDigitChars_cons (c : Char) (digits : List Char) :
    Nat.ofDigitChars 10 (c :: digits) 0 =
      10 ^ digits.length * (c.toNat - 48) + Nat.ofDigitChars 10 digits 0 := by
  rw [Nat.ofDigitChars_cons, Nat.ofDigitChars_eq_ofDigitChars_zero, Nat.mul_zero, Nat.zero_add]
  rfl

theorem ofDigitChars_dropWhile (digits : List Char) :
    Nat.ofDigitChars 10 (digits.dropWhile (· == '0')) 0 = Nat.ofDigitChars 10 digits 0 := by
  induction digits with
  | nil => rfl
  | cons c digits ih =>
    by_cases zero : c = '0'
    · subst zero
      rw [List.dropWhile_cons_of_pos (by rfl), ih, ofDigitChars_cons]
      simp
    · rw [List.dropWhile_cons_of_neg (by simpa using zero)]

theorem ofDigitChars_lt (digit : ∀ c ∈ digits, c.isDigit = true) :
    Nat.ofDigitChars 10 digits 0 < 10 ^ digits.length := by
  induction digits with
  | nil => simp
  | cons c digits ih =>
    have range := toNat_range (digit c (by simp))
    have rest := ih fun d member => digit d (by simp [member])
    have first : 10 ^ digits.length * (c.toNat - 48) ≤ 10 ^ digits.length * 9 :=
      Nat.mul_le_mul_left _ (by omega)
    rw [ofDigitChars_cons, List.length_cons, Nat.pow_succ]
    omega

theorem le_ofDigitChars (digit : Char.isDigit c = true) (lead : c ≠ '0') (digits : List Char) :
    10 ^ digits.length ≤ Nat.ofDigitChars 10 (c :: digits) 0 := by
  have range := toNat_range digit
  have nonzero : c.toNat ≠ 48 := fun same => lead (Char.toNat_inj.mp same)
  rw [ofDigitChars_cons]
  exact Nat.le_add_right_of_le (Nat.le_mul_of_pos_right _ (by omega))

/-- Two digit strings of one length with one number are the same. -/
theorem eq_of_length_eq (digit : ∀ c ∈ s, c.isDigit = true) (digit' : ∀ c ∈ t, c.isDigit = true)
    (size : s.length = t.length) (same : Nat.ofDigitChars 10 s 0 = Nat.ofDigitChars 10 t 0) :
    s = t := by
  induction s generalizing t with
  | nil => exact (List.length_eq_zero_iff.mp size.symm).symm
  | cons c s ih =>
    cases t with
    | nil => cases size
    | cons d t =>
      have tails : s.length = t.length := Nat.succ.inj size
      have range := toNat_range (digit c (by simp))
      have range' := toNat_range (digit' d (by simp))
      have small := ofDigitChars_lt fun x member => digit x (List.mem_cons_of_mem c member)
      have small' := ofDigitChars_lt fun x member => digit' x (List.mem_cons_of_mem d member)
      rw [ofDigitChars_cons, ofDigitChars_cons, ← tails] at same
      rw [← tails] at small'
      have first : c.toNat - 48 = d.toNat - 48 := by
        have quotient := congrArg (· / 10 ^ s.length) same
        simpa only [Nat.mul_add_div (Nat.pow_pos (by decide : 0 < 10)), Nat.div_eq_of_lt small,
          Nat.div_eq_of_lt small', Nat.add_zero] using quotient
      have char : c = d := Char.toNat_inj.mp (by omega)
      subst char
      rw [ih (fun x member => digit x (List.mem_cons_of_mem c member))
        (fun x member => digit' x (List.mem_cons_of_mem c member)) tails (Nat.add_left_cancel same)]

private theorem length_le_of_le (digit : ∀ c ∈ s, c.isDigit = true)
    (digit' : ∀ c ∈ t, c.isDigit = true) (lead : t.head? ≠ some '0')
    (ordered : Nat.ofDigitChars 10 t 0 ≤ Nat.ofDigitChars 10 s 0) : t.length ≤ s.length := by
  cases t with
  | nil => exact Nat.zero_le _
  | cons c t =>
    have low := le_ofDigitChars (digit' c (by simp)) (fun same => lead (by rw [same]; rfl)) t
    have high := ofDigitChars_lt digit
    exact (Nat.pow_lt_pow_iff_right (by decide)).mp (lt_of_le_of_lt (le_trans low ordered) high)

/-- Without leading zeros, the number determines the digits. -/
theorem eq_of_ofDigitChars_eq (digit : ∀ c ∈ s, c.isDigit = true)
    (digit' : ∀ c ∈ t, c.isDigit = true) (lead : s.head? ≠ some '0') (lead' : t.head? ≠ some '0')
    (same : Nat.ofDigitChars 10 s 0 = Nat.ofDigitChars 10 t 0) : s = t :=
  eq_of_length_eq digit digit' (le_antisymm (length_le_of_le digit' digit lead same.le)
    (length_le_of_le digit digit' lead' same.ge)) same

/-- Digits without leading zeros, where a single zero is left for the number zero. -/
def trimmed (digits : List Char) : List Char :=
  let rest := digits.dropWhile (· == '0')
  if rest.isEmpty then ['0'] else rest

theorem trimmed_ne_nil (digits : List Char) : trimmed digits ≠ [] := by
  unfold trimmed
  dsimp only
  split
  · simp
  · rename_i filled
    exact fun empty => filled (List.isEmpty_iff.mpr empty)

theorem isDigit_of_mem_trimmed (digit : ∀ c ∈ digits, c.isDigit = true)
    (member : c ∈ trimmed digits) : c.isDigit = true := by
  unfold trimmed at member
  dsimp only at member
  split at member
  · rw [List.mem_singleton.mp member]
    rfl
  · exact digit c ((List.dropWhile_sublist _).subset member)

theorem ofDigitChars_trimmed (digits : List Char) :
    Nat.ofDigitChars 10 (trimmed digits) 0 = Nat.ofDigitChars 10 digits 0 := by
  rw [← ofDigitChars_dropWhile digits]
  unfold trimmed
  dsimp only
  split
  · rename_i empty
    rw [List.isEmpty_iff.mp empty]
    rfl
  · rfl

private theorem head?_dropWhile_zero (digits : List Char) :
    (digits.dropWhile (· == '0')).head? ≠ some '0' := by
  intro lead
  have stop := List.head?_dropWhile_not (· == '0') digits
  rw [lead] at stop
  cases stop

theorem trimmed_eq_iff (digit : ∀ c ∈ s, c.isDigit = true) (digit' : ∀ c ∈ t, c.isDigit = true) :
    trimmed s = trimmed t ↔ Nat.ofDigitChars 10 s 0 = Nat.ofDigitChars 10 t 0 := by
  constructor
  · intro same
    rw [← ofDigitChars_trimmed s, same, ofDigitChars_trimmed]
  · intro same
    rw [← ofDigitChars_dropWhile s, ← ofDigitChars_dropWhile t] at same
    have rest : s.dropWhile (· == '0') = t.dropWhile (· == '0') :=
      eq_of_ofDigitChars_eq (fun c member => digit c ((List.dropWhile_sublist _).subset member))
        (fun c member => digit' c ((List.dropWhile_sublist _).subset member))
        (head?_dropWhile_zero s) (head?_dropWhile_zero t) same
    rw [trimmed, trimmed, rest]

/-- Digits without leading zeros: `0|[1-9][0-9]*`. -/
inductive Plain : List Char → Prop where
  | zero : Plain ['0']
  | lead (digit : Char.isDigit c = true) (nonzero : c ≠ '0')
      (rest : ∀ d ∈ digits, Char.isDigit d = true) : Plain (c :: digits)

theorem Plain.isDigit (plain : Plain digits) : ∀ c ∈ digits, c.isDigit = true := by
  intro c member
  cases plain with
  | zero => rw [List.mem_singleton.mp member]; rfl
  | lead digit nonzero rest =>
    rcases List.mem_cons.mp member with rfl | member
    · exact digit
    · exact rest c member

theorem plain_trimmed (digit : ∀ c ∈ digits, c.isDigit = true) : Plain (trimmed digits) := by
  have kept : ∀ c ∈ digits.dropWhile (· == '0'), c.isDigit = true :=
    fun c member => digit c ((List.dropWhile_sublist _).subset member)
  have lead := head?_dropWhile_zero digits
  unfold trimmed
  dsimp only
  cases rest : digits.dropWhile (· == '0') with
  | nil => exact .zero
  | cons c more =>
    rw [rest] at kept lead
    exact .lead (kept c List.mem_cons_self) (fun zero => lead (by rw [zero]; rfl))
      fun d member => kept d (List.mem_cons_of_mem c member)

/-- Behind a leading zero there would be one digit too few for the number. -/
theorem plain_toDigits (n : Nat) : Plain (Nat.toDigits 10 n) := by
  have digit : ∀ c ∈ Nat.toDigits 10 n, c.isDigit = true :=
    fun c => Nat.isDigit_of_mem_toDigits (by decide) (by decide)
  have value := Nat.ofDigitChars_ten_toDigits (n := n)
  cases digits : Nat.toDigits 10 n with
  | nil => exact absurd digits Nat.toDigits_ne_nil
  | cons c rest =>
    rw [digits] at digit value
    have behind : ∀ d ∈ rest, d.isDigit = true := fun d member => digit d (List.mem_cons_of_mem c member)
    by_cases zero : c = '0'
    · cases rest with
      | nil => rw [zero]; exact .zero
      | cons d rest =>
        have small : n < 10 ^ (d :: rest).length := by
          have bound := ofDigitChars_lt behind
          rw [zero, ofDigitChars_cons] at value
          simpa [← value] using bound
        have short := (Nat.length_toDigits_le_iff (by decide) (by simp)).mpr small
        rw [digits] at short
        simp at short
    · exact .lead (digit c List.mem_cons_self) zero behind

end CellArithmetic.Digits
