/-! Names of cells: ASCII letters followed by ASCII digits. Letter case and leading
zeros of the digits do not matter, so every cell has one canonical name. -/
namespace CellArithmetic.CellName

/-- A name begins where letters are followed at once by a digit. -/
def starts : List Char → Bool
  | [] => false
  | c :: s => c.isAlpha && ((c :: s).dropWhile Char.isAlpha).head?.any Char.isDigit

/-- The longest name at the front of a text, and what follows it. -/
def read (s : List Char) : List Char × List Char :=
  let number := s.dropWhile Char.isAlpha
  (s.takeWhile Char.isAlpha ++ number.takeWhile Char.isDigit, number.dropWhile Char.isDigit)

/-- Capital letters before the first digit, and from it on no leading zeros; a zero
stands for a missing rest. -/
def canonical (name : String) : String :=
  let isLead := fun c : Char => !c.isDigit
  let letters := name.toList.takeWhile isLead
  let number := (name.toList.dropWhile isLead).dropWhile (· == '0')
  String.ofList (letters.map Char.toUpper ++ if number.isEmpty then ['0'] else number)

/-- Whether the whole text is a name. -/
def isName (text : String) : Bool :=
  let number := text.toList.dropWhile Char.isAlpha
  !(text.toList.takeWhile Char.isAlpha).isEmpty && !number.isEmpty && number.all Char.isDigit

/-- The canonical name of a cell, if the text names one. -/
def canonical? (text : String) : Option String := if isName text then some (canonical text) else none

theorem read_append_rest (s : List Char) : (read s).1 ++ (read s).2 = s := by simp [read]

theorem read_ne_nil (front : starts s = true) : (read s).1 ≠ [] := by
  unfold starts at front
  split at front
  · contradiction
  · simp only [Bool.and_eq_true] at front
    simp [read, front.1]

end CellArithmetic.CellName
