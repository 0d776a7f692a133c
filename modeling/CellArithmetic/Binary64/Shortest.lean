import CellArithmetic.Binary64

/-! The shortest decimal that reads back as a given number, written without an
exponent. Magnitudes and decimals meet over the common denominator
`2 ^ 1075 * 10 ^ 324`: half units of doubles and the finest decimal grid that
can be needed are both whole there. -/
namespace CellArithmetic.Binary64

/-- The number of decimal places of the finest grid. -/
def places : Nat := 324

/-- The number of half units in one. -/
def halfUnits : Nat := Nat.pow 2 1075

/-- The magnitudes that read back as one pattern, over the common denominator. The two
ends belong to the range exactly when the pattern is even. -/
structure ReadingRange where
  low : Nat
  value : Nat
  high : Nat
  closed : Bool

def ReadingRange.ofPattern (pattern : Nat) : ReadingRange where
  low := (units (pattern - 1) + units pattern) * Nat.pow 10 places
  value := 2 * units pattern * Nat.pow 10 places
  high := (units pattern + units (pattern + 1)) * Nat.pow 10 places
  closed := pattern % 2 == 0

def ReadingRange.covers (range : ReadingRange) (x : Nat) : Bool :=
  if range.closed then range.low ≤ x && x ≤ range.high else range.low < x && x < range.high

/-- The multiple of `step` in the range that is nearest to the value; of two equally
near ones the larger. -/
def ReadingRange.nearestOn? (range : ReadingRange) (step : Nat) : Option Nat :=
  let below := range.value / step * step
  let above := below + step
  match range.covers below, range.covers above with
  | true, true => some (if range.value - below < above - range.value then below else above)
  | true, false => some below
  | false, true => some above
  | false, false => none

/-- The answer of the coarsest decimal grid, of spacing `10 ^ exponent` at most, that meets
the range. A coarser grid means fewer digits. -/
def ReadingRange.onCoarsestGrid (range : ReadingRange) : (exponent : Nat) → Nat
  | 0 => (range.nearestOn? halfUnits).getD range.value
  | exponent + 1 =>
    match range.nearestOn? (Nat.pow 10 (exponent + 1) * halfUnits) with
    | some x => x
    | none => range.onCoarsestGrid exponent

/-- The shortest decimal that reads back as the pattern, in units of `10 ^ -324`. -/
def shortest (pattern : Nat) : Nat :=
  if pattern = 0 then 0 else (ReadingRange.ofPattern pattern).onCoarsestGrid (places + 308) / halfUnits

/-- The digits of `n` behind a point, `width` of them, without the zeros at the end. -/
def fractionDigits (width n : Nat) : List Char :=
  let digits := Nat.toDigits 10 n
  ((List.replicate (width - digits.length) '0' ++ digits).reverse.dropWhile (· == '0')).reverse

/-- The positional text of `n / 10 ^ width`. -/
def positional (width n : Nat) : List Char :=
  let fraction := fractionDigits width (n % Nat.pow 10 width)
  Nat.toDigits 10 (n / Nat.pow 10 width) ++ if fraction.isEmpty then [] else '.' :: fraction

/-- The canonical text of any number, the ones that no formula holds included. -/
def text (x : Binary64) : String :=
  if x.isNaN then "NaN"
  else
    let sign := if x.isNegative then ['-'] else []
    String.ofList (sign ++ if x.isFinite then positional places (shortest x.pattern) else ['i', 'n', 'f'])

end CellArithmetic.Binary64
