/-! Double-precision numbers as bit patterns. Below the sign bit the patterns are
ordered as their magnitudes are, so a magnitude is a natural number of units of
`2 ^ -1074`, and the next pattern is the next magnitude. -/
namespace CellArithmetic

structure Binary64 where
  bits : UInt64
deriving DecidableEq, Repr

namespace Binary64

/-- The pattern of infinity, one past the largest finite pattern. -/
def infinityPattern : Nat := 2047 * Nat.pow 2 52

def ofPattern (pattern : Nat) : Binary64 := ⟨UInt64.ofNat pattern⟩

def infinity : Binary64 := ofPattern infinityPattern

/-- The bit pattern without its sign. -/
def pattern (x : Binary64) : Nat := x.bits.toNat % Nat.pow 2 63

def isNegative (x : Binary64) : Bool := Nat.pow 2 63 ≤ x.bits.toNat

def isFinite (x : Binary64) : Bool := x.pattern < infinityPattern

def isNaN (x : Binary64) : Bool := infinityPattern < x.pattern

/-- How many units of `2 ^ -1074` an unsigned pattern stands for. The pattern of
infinity gets the magnitude that would follow the largest finite one. -/
def units (pattern : Nat) : Nat :=
  let shift := pattern / Nat.pow 2 52 - 1
  (pattern - shift * Nat.pow 2 52) * Nat.pow 2 shift

example : units 0x3ff0000000000000 = 2 ^ 1074 ∧ units 1 = 1 ∧ units infinityPattern = 2 ^ 2098 := by
  decide +kernel

end CellArithmetic.Binary64
