/-! Places in a text: lines and columns count from one, offsets from zero, and all
three count code points. Only a line feed begins a new line. -/
namespace CellArithmetic

structure Position where
  line : Nat
  column : Nat
  offset : Nat
deriving DecidableEq, Repr

namespace Position

def start : Position := ⟨1, 1, 0⟩

def next (place : Position) (c : Char) : Position :=
  if c = '\n' then ⟨place.line + 1, 1, place.offset + 1⟩
  else ⟨place.line, place.column + 1, place.offset + 1⟩

/-- The place after the characters that stand from `place` on. -/
def advance (place : Position) (s : List Char) : Position := s.foldl next place

@[simp] theorem advance_nil (place : Position) : place.advance [] = place := rfl

@[simp] theorem advance_cons (place : Position) (c : Char) (s : List Char) :
    place.advance (c :: s) = (place.next c).advance s := rfl

theorem advance_append (place : Position) (s t : List Char) :
    place.advance (s ++ t) = (place.advance s).advance t := List.foldl_append

theorem offset_advance (place : Position) (s : List Char) :
    (place.advance s).offset = place.offset + s.length := by
  induction s generalizing place with
  | nil => rfl
  | cons c s ih =>
    have step : (place.next c).offset = place.offset + 1 := by unfold next; split <;> rfl
    rw [advance_cons, ih, step, List.length_cons]; omega

def text (place : Position) : String :=
  toString place.line ++ ":" ++ toString place.column

end CellArithmetic.Position
