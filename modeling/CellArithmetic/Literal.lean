import CellArithmetic.Binary64.Rounding

/-! Number literals, by their written parts. Digits may stand before the point, after
it, or on both sides; an exponent counts only when a digit follows its mark and sign. -/
namespace CellArithmetic

structure Literal.Power where
  mark : Char
  sign : Option Char
  digits : List Char
deriving DecidableEq, Repr

structure Literal where
  whole : List Char
  /-- The digits after the point, when a point is written. -/
  fraction : Option (List Char)
  power : Option Literal.Power
deriving DecidableEq, Repr

namespace Literal

def Power.text (power : Power) : List Char := power.mark :: (power.sign.toList ++ power.digits)

def Power.value (power : Power) : Int :=
  let size : Int := Nat.ofDigitChars 10 power.digits 0
  if power.sign = some '-' then -size else size

def text (literal : Literal) : List Char :=
  literal.whole ++ literal.fraction.elim [] ('.' :: ·) ++ literal.power.elim [] Power.text

/-- The number that the written decimal denotes, correctly rounded. -/
def value (literal : Literal) : Binary64 :=
  let fraction := literal.fraction.getD []
  Binary64.ofDecimal (literal.whole ++ fraction) (literal.power.elim 0 Power.value - fraction.length)

/-- A number begins with a digit, or with a point that a digit follows. -/
def starts : List Char → Bool
  | '.' :: c :: _ => c.isDigit
  | c :: _ => c.isDigit
  | [] => false

def readSign : List Char → Option Char × List Char
  | '+' :: s => (some '+', s)
  | '-' :: s => (some '-', s)
  | s => (none, s)

def readFraction : List Char → Option (List Char) × List Char
  | '.' :: s => (some (s.takeWhile Char.isDigit), s.dropWhile Char.isDigit)
  | s => (none, s)

def readPower : List Char → Option Power × List Char
  | [] => (none, [])
  | mark :: s =>
    let (sign, digits) := readSign s
    if (mark = 'e' ∨ mark = 'E') ∧ digits.head?.any Char.isDigit then
      (some ⟨mark, sign, digits.takeWhile Char.isDigit⟩, digits.dropWhile Char.isDigit)
    else (none, mark :: s)

/-- The longest literal at the front of a text, and what follows it. -/
def read (s : List Char) : Literal × List Char :=
  let (fraction, rest) := readFraction (s.dropWhile Char.isDigit)
  let (power, rest) := readPower rest
  (⟨s.takeWhile Char.isDigit, fraction, power⟩, rest)

private theorem sign_append (s : List Char) : (readSign s).1.toList ++ (readSign s).2 = s := by
  unfold readSign; split <;> rfl

theorem fraction_append (s : List Char) :
    (readFraction s).1.elim [] ('.' :: ·) ++ (readFraction s).2 = s := by
  unfold readFraction; split <;> simp

theorem power_append (s : List Char) :
    (readPower s).1.elim [] Power.text ++ (readPower s).2 = s := by
  unfold readPower
  split
  · rfl
  · rename_i mark s
    dsimp only
    split
    · simp [Power.text, sign_append]
    · rfl

/-- Reading loses nothing: the literal as written, then the rest. -/
theorem text_append_rest (s : List Char) : (read s).1.text ++ (read s).2 = s := by
  have fraction := fraction_append (s.dropWhile Char.isDigit)
  have power := power_append (readFraction (s.dropWhile Char.isDigit)).2
  simp only [read, text, List.append_assoc]
  rw [power, fraction, List.takeWhile_append_dropWhile]

theorem text_ne_nil (front : starts s = true) : (read s).1.text ≠ [] := by
  unfold starts at front
  split at front
  · simp [read, text, readFraction, Char.isDigit]
  · rename_i c rest _
    simp [read, text, front]
  · contradiction

end CellArithmetic.Literal
