import CellArithmetic.Binary64

/-! The number nearest to a ratio, and the number that a decimal denotes. Of two
nearest numbers the one with the even pattern is taken; a magnitude from
`2 ^ 1024 - 2 ^ 970` on is infinite. -/
namespace CellArithmetic.Binary64

/-- The whole number nearest to `num / den`, a half going to the even neighbour. -/
def roundEven (num den : Nat) : Nat :=
  let whole := num / den
  let twice := 2 * (num % den)
  if twice < den || (twice == den && whole % 2 == 0) then whole else whole + 1

/-- The pattern nearest to `num / den` units. A rounding that carries into the next
power of two lands on the next exponent by itself. -/
def nearestPattern (num den : Nat) : Nat :=
  let shift := (num / den).log2 - 52
  min infinityPattern (shift * Nat.pow 2 52 + roundEven num (den * Nat.pow 2 shift))

/-- The number nearest to `num / den`. -/
def nearest (num den : Nat) : Binary64 := ofPattern (nearestPattern (num * Nat.pow 2 1074) den)

/-- The number nearest to `digits * 10 ^ exponent`. A decimal whose leading digit is
far out of range is settled before any power of ten is formed. -/
def ofDecimal (digits : List Char) (exponent : Int) : Binary64 :=
  let significant := digits.dropWhile (· == '0')
  let order := (significant.length : Int) + exponent
  if significant.isEmpty || order < -330 then ofPattern 0
  else if 310 < order then infinity
  else
    let mantissa := Nat.ofDigitChars 10 significant 0
    match exponent with
    | .ofNat power => nearest (mantissa * Nat.pow 10 power) 1
    | .negSucc power => nearest mantissa (Nat.pow 10 (power + 1))

example : ofDecimal ['0', '1'] 0 = ⟨0x3ff0000000000000⟩ ∧ ofDecimal ['1'] (-1) = ⟨0x3fb999999999999a⟩ ∧
    ofDecimal ['5'] (-324) = ⟨1⟩ ∧ ofDecimal ['2'] (-324) = ⟨0⟩ ∧ ofDecimal ['2'] 308 = infinity := by
  decide +kernel

end CellArithmetic.Binary64
