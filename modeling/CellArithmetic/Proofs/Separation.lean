import CellArithmetic.Proofs.Places

/-! Texts side by side. Where the second one begins with something that no number, name or run
goes on with, the tokens of both are the tokens of the first and those of the second, which
only stand farther on. A blank parts any two texts in this way. -/
namespace CellArithmetic

open Text

namespace Text

theorem rtakeWhile_append_of_all (all : ∀ c ∈ t, p c = true) (s : List Char) :
    (s ++ t).rtakeWhile p = s.rtakeWhile p ++ t := by
  rw [List.rtakeWhile, List.rtakeWhile, List.reverse_append,
    List.takeWhile_append_of_pos fun c member => all c (List.mem_reverse.mp member),
    List.reverse_append, List.reverse_reverse]

/-- From the end of a text nothing is taken that stands in front of what stops it. -/
theorem rtakeWhile_append_cons (stop : p c = false) (s t : List Char) :
    (s ++ c :: t).rtakeWhile p = t.rtakeWhile p := by
  have parts : (s ++ c :: t).reverse = t.reverse ++ c :: s.reverse := by simp
  rw [List.rtakeWhile, parts, takeWhile_append_of_stops (stops_cons.mpr stop), List.rtakeWhile]

/-- The text goes on with nothing that could belong to a token in front of it. -/
structure Separates (rest : List Char) : Prop where
  boundary : Token.isBoundary rest = true
  outer : Stops isInner rest
  unsigned : Stops (fun c => c == '+' || c == '-') rest

theorem separates_of_blank (blank : isBlank w = true) (rest : List Char) : Separates (w :: rest) where
  boundary := by simp [Token.isBoundary, blank]
  outer := stops_cons.mpr <| by
    cases inner : isInner w with
    | false => rfl
    | true => rw [(plain_of_inner inner).1] at blank; cases blank
  unsigned := stops_cons.mpr <| by
    rw [Bool.or_eq_false_iff, beq_eq_false_iff_ne, beq_eq_false_iff_ne]
    constructor <;> rintro rfl <;> cases blank

namespace Separates

theorem stops_digit (separates : Separates rest) : Stops Char.isDigit rest :=
  separates.outer.mono (by simp +contextual [isInner])

theorem stops_alpha (separates : Separates rest) : Stops Char.isAlpha rest :=
  separates.outer.mono (by simp +contextual [isInner])

theorem ne_cons (separates : Separates rest) (continues : isInner c = true ∨ c = '+' ∨ c = '-')
    (s : List Char) : rest ≠ c :: s := by
  rintro rfl
  have outer := stops_cons.mp separates.outer
  have unsigned := stops_cons.mp separates.unsigned
  rcases continues with inner | rfl | rfl
  · rw [inner] at outer
    cases outer
  · cases unsigned
  · cases unsigned

end Separates

end Text

namespace Literal

variable (separates : Separates rest)

include separates

theorem starts_append_of_separates (c : Char) (s : List Char) :
    starts (c :: (s ++ rest)) = starts (c :: s) := by
  rw [starts_cons, starts_cons, any_head_append_of_stops separates.stops_digit]

theorem readSign_append_of_separates (s : List Char) :
    readSign (s ++ rest) = ((readSign s).1, (readSign s).2 ++ rest) := by
  cases s with
  | nil =>
    simp only [List.nil_append, readSign]
    split
    · exact absurd rfl (separates.ne_cons (.inr (.inl rfl)) _)
    · exact absurd rfl (separates.ne_cons (.inr (.inr rfl)) _)
    · rfl
  | cons c s =>
    rw [List.cons_append, readSign_cons, readSign_cons]
    split
    · rfl
    · split <;> rfl

theorem readFraction_append_of_separates (s : List Char) :
    readFraction (s ++ rest) = ((readFraction s).1, (readFraction s).2 ++ rest) := by
  cases s with
  | nil =>
    simp only [List.nil_append, readFraction]
    split
    · exact absurd rfl (separates.ne_cons (.inl rfl) _)
    · rfl
  | cons c s =>
    rw [List.cons_append, readFraction_cons, readFraction_cons,
      takeWhile_append_of_stops separates.stops_digit, dropWhile_append_of_stops separates.stops_digit]
    split <;> rfl

theorem readPower_append_of_separates (s : List Char) :
    readPower (s ++ rest) = ((readPower s).1, (readPower s).2 ++ rest) := by
  cases s with
  | nil =>
    cases rest with
    | nil => rfl
    | cons c rest =>
      have plain : ¬(c = 'e' ∨ c = 'E') := by
        rintro (rfl | rfl) <;> exact separates.ne_cons (.inl rfl) _ rfl
      simp [readPower, plain]
  | cons mark s =>
    simp only [List.cons_append, readPower, readSign_append_of_separates separates,
      any_head_append_of_stops separates.stops_digit,
      takeWhile_append_of_stops separates.stops_digit, dropWhile_append_of_stops separates.stops_digit]
    split <;> rfl

theorem read_append_of_separates (s : List Char) :
    read (s ++ rest) = ((read s).1, (read s).2 ++ rest) := by
  simp only [read, takeWhile_append_of_stops separates.stops_digit,
    dropWhile_append_of_stops separates.stops_digit, readFraction_append_of_separates separates,
    readPower_append_of_separates separates]

end Literal

namespace CellName

variable (separates : Separates rest)

include separates

theorem starts_append_of_separates (c : Char) (s : List Char) :
    starts (c :: (s ++ rest)) = starts (c :: s) := by
  rw [starts, starts, ← List.cons_append, dropWhile_append_of_stops separates.stops_alpha,
    any_head_append_of_stops separates.stops_digit]

theorem read_append_of_separates (s : List Char) :
    read (s ++ rest) = ((read s).1, (read s).2 ++ rest) := by
  simp only [read, takeWhile_append_of_stops separates.stops_digit,
    dropWhile_append_of_stops separates.stops_digit, takeWhile_append_of_stops separates.stops_alpha,
    dropWhile_append_of_stops separates.stops_alpha]

end CellName

namespace Token

variable (separates : Separates rest)

include separates

theorem isBoundary_append_of_separates (c : Char) (s : List Char) :
    isBoundary (c :: (s ++ rest)) = isBoundary (c :: s) := by
  simp only [isBoundary, Literal.starts_append_of_separates separates,
    CellName.starts_append_of_separates separates]

theorem chunk_append_of_separates (c : Char) (s : List Char) :
    chunk c (s ++ rest) = ((chunk c s).1, (chunk c s).2 ++ rest) := by
  unfold chunk
  split
  · rw [takeWhile_append_of_stops separates.stops_alpha, dropWhile_append_of_stops separates.stops_alpha]
  · rfl

theorem run_append_of_separates (s : List Char) :
    run (s ++ rest) = ((run s).1, (run s).2 ++ rest) := by
  fun_induction run s with
  | case1 => exact run_of_boundary separates.boundary
  | case2 c s stops =>
    rw [stopsRun_eq_isBoundary] at stops
    exact run_of_boundary ((isBoundary_append_of_separates separates c s).trans stops)
  | case3 c s free tail ih =>
    rw [stopsRun_eq_isBoundary, Bool.not_eq_true] at free
    have free' := (isBoundary_append_of_separates separates c s).trans free
    rw [List.cons_append, run_of_not_boundary free', chunk_append_of_separates separates, ih]

/-- What is cut off does not hang on what stands behind a separation. -/
theorem cut_append_of_separates (c : Char) (s : List Char) :
    cut c (s ++ rest) = ⟨(cut c s).token, (cut c s).lexeme, (cut c s).rest ++ rest⟩ := by
  have literal := Literal.read_append_of_separates separates (c :: s)
  have name := CellName.read_append_of_separates separates (c :: s)
  rw [List.cons_append] at literal name
  unfold cut
  split
  · rfl
  · rfl
  · rfl
  · simp only [Literal.starts_append_of_separates separates, literal,
      CellName.starts_append_of_separates separates, name, chunk_append_of_separates separates,
      run_append_of_separates separates]
    split
    · rfl
    · split <;> rfl

end Token

namespace ScanTrace

theorem skip (blanks : Blanks w) (trace : ScanTrace (place.advance w) s tokens) :
    ScanTrace place (w ++ s) tokens := by
  generalize start : place.advance w = behind at trace
  cases trace with
  | done more => exact .done (blanks.append more)
  | @token w' c s tokens _ more shown rest =>
    rw [← start, ← Position.advance_append place] at rest ⊢
    rw [← List.append_assoc]
    exact .token (blanks.append more) shown rest

/-- The tokens of a text and those of a text behind it. -/
theorem append (front : ScanTrace place s tokens) (separates : Separates rest)
    (back : ScanTrace (place.advance s) rest others) :
    ScanTrace place (s ++ rest) (tokens ++ others) := by
  induction front with
  | done blanks => exact back.skip blanks
  | @token w c s tokens place blanks shown _ ih =>
    have cut := Token.cut_append_of_separates separates c s
    rw [← Token.cut_append c s, Position.advance_append, Position.advance_append] at back
    have whole : ScanTrace place (w ++ c :: (s ++ rest)) _ :=
      .token blanks shown (by rw [cut]; exact ih back)
    rw [cut] at whole
    rw [List.append_assoc]
    exact whole

end ScanTrace

/-- The place when a text comes in front: more lines by its line feeds, and on what was the
first line more columns by the characters behind the last of them. -/
def Position.shift (front : List Char) (place : Position) : Position :=
  ⟨place.line + front.count '\n',
    if place.line = 1 then place.column + (front.rtakeWhile (· != '\n')).length else place.column,
    place.offset + front.length⟩

/-- The token when a text comes in front of its own. -/
def Occurrence.shift (front : String) (here : Occurrence) : Occurrence :=
  { here with position := here.position.shift front.toList }

theorem Position.shift_behind (front u : List Char) : (behind u).shift front = behind (front ++ u) := by
  unfold shift behind
  -- the column hangs on the text in front only as long as no line feed is in between
  by_cases feed : '\n' ∈ u
  · have column : (front ++ u).rtakeWhile (· != '\n') = u.rtakeWhile (· != '\n') := by
      obtain ⟨x, y, rfl⟩ := List.append_of_mem feed
      rw [← List.append_assoc, rtakeWhile_append_cons rfl, rtakeWhile_append_cons rfl]
    have later : ¬1 + u.count '\n' = 1 := by
      have lines := List.count_pos_iff.mpr feed
      omega
    rw [if_neg later, column, List.count_append, List.length_append]
    simp only [mk.injEq, true_and]
    omega
  · have plain : ∀ c ∈ u, (c != '\n') = true := by
      rintro c member
      rw [bne_iff_ne]
      rintro rfl
      exact feed member
    have same : u.rtakeWhile (· != '\n') = u := List.rtakeWhile_eq_self_iff.mpr plain
    rw [if_pos (by rw [List.count_eq_zero.mpr feed]), rtakeWhile_append_of_all plain, same,
      List.count_append, List.length_append, List.length_append]
    simp only [mk.injEq]
    omega

/-- With a text in front the same tokens are found, farther on. -/
theorem ScanTrace.shift (trace : ScanTrace (.behind u) s tokens) (front : String) :
    ScanTrace (.behind (front.toList ++ u)) s (tokens.map (Occurrence.shift front)) := by
  generalize start : Position.behind u = place at trace
  induction trace generalizing u with
  | done blanks => exact .done blanks
  | @token w c s tokens place blanks shown _ ih =>
    subst start
    have rest := ih (u := u ++ w ++ (Token.cut c s).lexeme)
      (by rw [Position.advance_behind, Position.advance_behind])
    rw [← List.append_assoc, ← List.append_assoc, ← Position.advance_behind,
      ← Position.advance_behind] at rest
    have first := ScanTrace.token blanks shown rest
    rw [List.map_cons, Occurrence.shift, Position.advance_behind, Position.shift_behind]
    rw [Position.advance_behind, List.append_assoc] at first
    exact first

/-- The tokens around a blank are the tokens in front of it and those behind it, shifted. -/
theorem scan_append_blank (blank : isBlank w = true) (a b : String) :
    scan (a ++ String.singleton w ++ b) =
      scan a ++ (scan b).map (Occurrence.shift (a ++ String.singleton w)) := by
  have single : Blanks [w] := by
    intro c member
    rwa [List.mem_singleton.mp member]
  have behind : ScanTrace (.behind []) b.toList (scan b) := ScanTrace.of_scan b
  have back := behind.shift (a ++ String.singleton w)
  rw [String.toList_append, String.toList_singleton, List.append_nil, ← Position.advance_behind,
    ← Position.advance_start] at back
  have trace := (ScanTrace.of_scan a).append (separates_of_blank blank b.toList) (back.skip single)
  rw [scan, Cursor.ofText, String.toList_append, String.toList_append, String.toList_singleton,
    List.append_assoc, List.singleton_append, trace.drain_eq]

theorem scan_append_blank_feed : isBlank '\n' = true ∧
    scan ("1e" ++ String.singleton '\n' ++ "5 x2") =
      scan "1e" ++ (scan "5 x2").map (Occurrence.shift ("1e" ++ String.singleton '\n')) :=
  ⟨by decide, scan_append_blank (by decide) "1e" "5 x2"⟩

/-- An exponent does not go on behind a line feed, as it would without one. -/
example : (scan "1e\n5").map (·.position) = [⟨1, 1, 0⟩, ⟨1, 2, 1⟩, ⟨2, 1, 3⟩] ∧
    (scan "1e5").map (·.position) = [⟨1, 1, 0⟩] := by
  decide +kernel

end CellArithmetic
