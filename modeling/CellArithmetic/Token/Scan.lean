import CellArithmetic.CellName
import CellArithmetic.Literal
import CellArithmetic.Text
import CellArithmetic.Token

/-! Cutting a text into tokens. Numbers and names are as long as possible; what begins
no token is unrecognized up to the next place where something else begins. Scanning
never fails, and apart from blank characters it loses nothing. -/
namespace CellArithmetic

namespace Token

/-- Whether an unrecognized run stops before the text: a blank, a parenthesis, an
operator, a number or a name begins there. -/
def isBoundary : List Char → Bool
  | [] => true
  | c :: s =>
    Text.isBlank c || c == '(' || c == ')' || (Operator.ofChar? c).isSome ||
      Literal.starts (c :: s) || CellName.starts (c :: s)

/-- What an unrecognized run takes at once: all letters in a row, or one other character. -/
def chunk (c : Char) (s : List Char) : List Char × List Char :=
  if c.isAlpha then (c :: s.takeWhile Char.isAlpha, s.dropWhile Char.isAlpha) else ([c], s)

theorem chunk_append (c : Char) (s : List Char) : (chunk c s).1 ++ (chunk c s).2 = c :: s := by
  unfold chunk; split <;> simp

theorem chunk_ne_nil (c : Char) (s : List Char) : (chunk c s).1 ≠ [] := by
  unfold chunk; split <;> simp

private theorem chunk_shorter (c : Char) (s : List Char) :
    (chunk c s).2.length < (c :: s).length := by
  have total := congrArg List.length (chunk_append c s)
  have filled := List.length_pos_iff.mpr (chunk_ne_nil c s)
  rw [List.length_append] at total
  omega

/-- Whether an unrecognized run stops in front of a character. Of letters in a row only what
follows them is looked at: a digit makes them a name. -/
def stopsRun (c : Char) (s : List Char) : Bool :=
  if c.isAlpha then (s.dropWhile Char.isAlpha).head?.any Char.isDigit else isBoundary (c :: s)

/-- The unrecognized run at the front of a text, up to the next boundary. -/
def run : List Char → List Char × List Char
  | [] => ([], [])
  | c :: s =>
    if stopsRun c s then ([], c :: s)
    else
      let tail := run (chunk c s).2
      ((chunk c s).1 ++ tail.1, tail.2)
termination_by s => s.length
decreasing_by exact chunk_shorter c s

theorem run_append (s : List Char) : (run s).1 ++ (run s).2 = s := by
  fun_induction run s with
  | case1 => rfl
  | case2 => rfl
  | case3 c s _ tail ih => rw [List.append_assoc, ih, chunk_append]

/-- A token at the front of a text, the text it is written as, and what follows. -/
structure Cut where
  token : Token
  lexeme : List Char
  rest : List Char

def cut (c : Char) (s : List Char) : Cut :=
  match c, Operator.ofChar? c with
  | '(', _ => ⟨.leftParen, ['('], s⟩
  | ')', _ => ⟨.rightParen, [')'], s⟩
  | c, some op => ⟨.operator op, [c], s⟩
  | c, none =>
    if Literal.starts (c :: s) then
      let (literal, rest) := Literal.read (c :: s)
      ⟨.number literal.value, literal.text, rest⟩
    else if CellName.starts (c :: s) then
      let (name, rest) := CellName.read (c :: s)
      ⟨.cell (String.ofList name), name, rest⟩
    else
      let (first, s) := chunk c s
      let (more, rest) := run s
      ⟨.unrecognized (String.ofList (first ++ more)), first ++ more, rest⟩

theorem cut_append (c : Char) (s : List Char) : (cut c s).lexeme ++ (cut c s).rest = c :: s := by
  unfold cut
  split
  · rfl
  · rfl
  · rfl
  · split
    · exact Literal.text_append_rest _
    · split
      · exact CellName.read_append_rest _
      · simp only [List.append_assoc, run_append, chunk_append]

theorem cut_ne_nil (c : Char) (s : List Char) : (cut c s).lexeme ≠ [] := by
  unfold cut
  split
  · simp
  · simp
  · simp
  · split
    · rename_i front; exact Literal.text_ne_nil front
    · split
      · rename_i front; exact CellName.read_ne_nil front
      · simp [chunk_ne_nil]

end Token

/-- A place in a text, and the text that is still to be read from there. -/
structure Cursor where
  rest : List Char
  position : Position

namespace Cursor

def ofText (text : String) : Cursor := ⟨text.toList, .start⟩

/-- Past the blank characters that stand next. -/
def skipBlanks (cursor : Cursor) : Cursor :=
  ⟨cursor.rest.dropWhile Text.isBlank, cursor.position.advance (cursor.rest.takeWhile Text.isBlank)⟩

/-- The next token, and the cursor behind it. -/
def next? (cursor : Cursor) : Option (Occurrence × Cursor) :=
  let place := cursor.skipBlanks.position
  match cursor.skipBlanks.rest with
  | [] => none
  | c :: s =>
    let piece := Token.cut c s
    some (⟨piece.token, String.ofList piece.lexeme, place⟩, ⟨piece.rest, place.advance piece.lexeme⟩)

private theorem next?_shorter {cursor behind : Cursor} (found : cursor.next? = some (token, behind)) :
    behind.rest.length < cursor.rest.length := by
  simp only [next?, skipBlanks] at found
  split at found
  · contradiction
  · rename_i c s shape
    have kept := congrArg List.length (List.takeWhile_append_dropWhile (p := Text.isBlank) (l := cursor.rest))
    have total := congrArg List.length (Token.cut_append c s)
    have filled := List.length_pos_iff.mpr (Token.cut_ne_nil c s)
    cases found
    rw [shape] at kept
    simp only [List.length_append, List.length_cons] at kept total ⊢
    omega

/-- All tokens from the cursor on, and the cursor at the end of the text. -/
def drain (cursor : Cursor) : List Occurrence × Cursor :=
  match found : cursor.next? with
  | none => ([], cursor.skipBlanks)
  | some (token, behind) =>
    have := next?_shorter found
    let (tokens, last) := behind.drain
    (token :: tokens, last)
termination_by cursor.rest.length

end Cursor

/-- The tokens of a text, in order. -/
def scan (text : String) : List Occurrence := (Cursor.ofText text).drain.1

end CellArithmetic
