import CellArithmetic.Proofs.Decimal
import CellArithmetic.Proofs.Places
import Mathlib.Order.Bounds.Basic

/-! How far a token goes. A number or a name is as long as the text allows, and what is
neither of them, nor an operator or a parenthesis, goes on up to the first boundary. -/
namespace CellArithmetic

open Text

namespace Text

/-- The longest text of a kind that stands at the front of a text. -/
structure Longest (kind : List Char → Prop) (s front : List Char) : Prop where
  holds : kind front
  begins : front <+: s
  longest : ∀ other, kind other → other <+: s → other.length ≤ front.length

/-- What leaves of a text no more than anything else of its kind is the longest. -/
theorem Longest.of_rest {s front rest : List Char} (holds : kind front) (whole : front ++ rest = s)
    (least : ∀ other more, kind other → other ++ more = s → rest <:+ more) : Longest kind s front where
  holds := holds
  begins := ⟨rest, whole⟩
  longest := by
    rintro other same ⟨more, parts⟩
    have short := (least other more same parts).length_le
    have total := congrArg List.length (whole.trans parts.symm)
    rw [List.length_append, List.length_append] at total
    omega

/-- Behind characters of a class, the rest of them is part of what follows. -/
theorem dropWhile_suffix_of_all {s : List Char} (all : ∀ c ∈ s, p c = true) (more : List Char) :
    (s ++ more).dropWhile p <:+ more := by
  rw [List.dropWhile_append_of_pos all]
  exact List.dropWhile_suffix p

end Text

namespace CellName

theorem rest_suffix (named : IsName name) (more : List Char) : (read (name ++ more)).2 <:+ more := by
  obtain ⟨_, alpha, number, digit⟩ := named
  have between := stops_digits number digit more
  simp only [read, List.append_assoc, dropWhile_append alpha between]
  exact dropWhile_suffix_of_all digit more

theorem longest_read (front : starts s = true) : Longest IsName s (read s).1 := by
  apply Longest.of_rest (isName_read front) (read_append_rest s)
  rintro other more named rfl
  exact rest_suffix named more

theorem starts_iff_exists_isName : starts s = true ↔ ∃ front, IsName front ∧ front <+: s := by
  constructor
  · intro front
    have longest := longest_read front
    exact ⟨_, longest.holds, longest.begins⟩
  · rintro ⟨front, named, rest, rfl⟩
    exact starts_append named rest

end CellName

namespace Literal

/-- Numbers as texts: `([0-9]+\.[0-9]*|[0-9]*\.[0-9]+|[0-9]+)([eE][+-]?[0-9]+)?`. -/
inductive IsNumeral : List Char → Prop where
  | mk {literal : Literal} (formed : literal.WellFormed) : IsNumeral literal.text

/-- The number that a text denotes is the written one, correctly rounded. -/
inductive Denotes : List Char → Binary64 → Prop where
  | mk {literal : Literal} {value : Binary64} (formed : literal.WellFormed)
      (rounds : Binary64.Rounds literal.exact value) : Denotes literal.text value

theorem readFraction_suffix (s : List Char) : (readFraction s).2 <:+ s := ⟨_, fraction_append s⟩

theorem readPower_suffix (s : List Char) : (readPower s).2 <:+ s := ⟨_, power_append s⟩

/-- A number at the front of a text is read at least up to its end. -/
theorem rest_suffix {literal : Literal} (formed : literal.WellFormed) (more : List Char) :
    (read (literal.text ++ more)).2 <:+ more := by
  rcases literal with ⟨whole, fraction, power⟩
  simp only [read, text, List.append_assoc]
  -- the last part that is written is the one that may be read on into what follows
  cases power with
  | some power =>
    have own := formed.power power rfl
    have behind := Power.stops_text own more
    rw [Option.elim_some, dropWhile_append formed.whole (stops_fraction fraction behind),
      readFraction_append formed.fraction behind, readPower_text own]
    exact dropWhile_suffix_of_all own.digits more
  | none =>
    refine (readPower_suffix _).trans ?_
    cases fraction with
    | none => exact (readFraction_suffix _).trans (dropWhile_suffix_of_all formed.whole more)
    | some digits =>
      have point : Stops Char.isDigit ('.' :: (digits ++ more)) := stops_cons.mpr rfl
      rw [Option.elim_some, Option.elim_none, List.nil_append, List.cons_append,
        dropWhile_append formed.whole point]
      exact dropWhile_suffix_of_all (formed.fraction digits rfl) more

theorem longest_read (front : starts s = true) : Longest IsNumeral s (read s).1.text := by
  apply Longest.of_rest (.mk (wellFormed_read front)) (text_append_rest s)
  rintro _ more ⟨formed⟩ rfl
  exact rest_suffix formed more

theorem starts_iff_exists_isNumeral : starts s = true ↔ ∃ front, IsNumeral front ∧ front <+: s := by
  constructor
  · intro front
    have longest := longest_read front
    exact ⟨_, longest.holds, longest.begins⟩
  · rintro ⟨_, ⟨formed⟩, rest, rfl⟩
    exact starts_append formed rest

end Literal

namespace Token

theorem number_iff_starts :
    (∃ value, (cut c s).token = .number value) ↔ Literal.starts (c :: s) = true := by
  constructor
  · rintro ⟨value, found⟩
    have spelled : Spelled (cut c s).token (cut c s).lexeme := spelled_cut (by rw [found]; rfl)
    rw [← cut_append c s]
    rw [found] at spelled
    generalize (cut c s).lexeme = lexeme at spelled
    cases spelled with
    | number formed => exact Literal.starts_append formed _
  · intro front
    rw [(cut_literal front).2]
    exact ⟨_, rfl⟩

theorem cell_iff_starts :
    (∃ name, (cut c s).token = .cell name) ↔ CellName.starts (c :: s) = true := by
  constructor
  · rintro ⟨name, found⟩
    have spelled : Spelled (cut c s).token (cut c s).lexeme := spelled_cut (by rw [found]; rfl)
    rw [← cut_append c s]
    rw [found] at spelled
    generalize (cut c s).lexeme = lexeme at spelled
    cases spelled with
    | cell named => exact CellName.starts_append named _
  · intro front
    rw [(cut_name front).2]
    exact ⟨_, rfl⟩

theorem drop_cut (c : Char) (s : List Char) : (c :: s).drop (cut c s).lexeme.length = (cut c s).rest :=
  (congrArg (List.drop _) (cut_append c s)).symm.trans List.drop_left

theorem longest_of_number (found : (cut c s).token = .number value) :
    Longest Literal.IsNumeral (c :: s) (cut c s).lexeme ∧ Literal.Denotes (cut c s).lexeme value := by
  have front := number_iff_starts.mp ⟨value, found⟩
  have formed := Literal.wellFormed_read front
  rw [(cut_literal front).2] at found ⊢
  cases found
  exact ⟨Literal.longest_read front, .mk formed (Literal.rounds_value formed)⟩

theorem longest_of_cell (found : (cut c s).token = .cell name) :
    Longest CellName.IsName (c :: s) (cut c s).lexeme ∧ name = String.ofList (cut c s).lexeme := by
  have front := cell_iff_starts.mp ⟨name, found⟩
  rw [(cut_name front).2] at found ⊢
  cases found
  exact ⟨CellName.longest_read front, rfl⟩

end Token

theorem Literal.Denotes.unsigned {value : Binary64} (denotes : Denotes lexeme value) :
    value.isNaN = false ∧ value.isNegative = false := by
  obtain ⟨_, rounds⟩ := denotes
  exact ⟨rounds.isNaN_eq_false, rounds.unsigned⟩

/-- The text from a token on. -/
def Occurrence.ahead (here : Occurrence) (text : String) : List Char :=
  text.toList.drop here.position.offset

/-- A token is a number or a name just where the text goes on with one, and the longest one
there is taken. -/
theorem values_are_longest (member : here ∈ scan text) :
    ((∃ value, here.token = .number value) ↔
      ∃ front, Literal.IsNumeral front ∧ front <+: here.ahead text) ∧
    (∀ value, here.token = .number value →
      Longest Literal.IsNumeral (here.ahead text) here.lexeme.toList ∧
      Literal.Denotes here.lexeme.toList value ∧ value.isNaN = false ∧ value.isNegative = false) ∧
    ((∃ name, here.token = .cell name) ↔
      ∃ front, CellName.IsName front ∧ front <+: here.ahead text) ∧
    (∀ name, here.token = .cell name →
      Longest CellName.IsName (here.ahead text) here.lexeme.toList ∧ name = here.lexeme) := by
  obtain ⟨front, c, rest, whole, _, rfl⟩ := (ScanTrace.of_scan text).exists_cut_behind member
  have ahead : text.toList.drop front.length = c :: rest := by rw [whole, List.drop_left]
  simp only [Occurrence.ahead, Position.behind, ahead, String.toList_ofList]
  refine ⟨?_, fun value found => ?_, ?_, fun name => Token.longest_of_cell⟩
  · rw [Token.number_iff_starts, Literal.starts_iff_exists_isNumeral]
  · obtain ⟨longest, denotes⟩ := Token.longest_of_number found
    exact ⟨longest, denotes, denotes.unsigned⟩
  · rw [Token.cell_iff_starts, CellName.starts_iff_exists_isName]

theorem values_are_longest_power : ∃ here ∈ scan "(1.e5e+x01",
    here = ⟨.number ⟨0x40F86A0000000000⟩, "1.e5", ⟨1, 2, 1⟩⟩ ∧
    Longest Literal.IsNumeral "1.e5e+x01".toList "1.e5".toList ∧
    Literal.Denotes "1.e5".toList ⟨0x40F86A0000000000⟩ := by
  have member : ⟨.number ⟨0x40F86A0000000000⟩, "1.e5", ⟨1, 2, 1⟩⟩ ∈ scan "(1.e5e+x01" := by
    decide +kernel
  obtain ⟨longest, denotes, _⟩ := (values_are_longest member).2.1 _ rfl
  exact ⟨_, member, rfl, longest, denotes⟩

/-- What is neither goes on from its place up to the first boundary behind it, so nothing
unrecognized follows at once. -/
theorem unrecognized_ends_at_boundary (member : here ∈ scan text)
    (unrecognized : here.token.isUnrecognized = true) :
    here.token = .unrecognized here.lexeme ∧
    IsLeast {place | here.position.offset < place ∧ Token.Boundary (text.toList.drop place)} here.stop ∧
    (∀ place, here.position.offset ≤ place → place < here.stop →
      ¬Token.Boundary (text.toList.drop place)) ∧
    (∀ next ∈ scan text, next.position.offset = here.stop → next.token.isUnrecognized = false) := by
  have trace := ScanTrace.of_scan text
  have filled := (trace.standsIn member).offset_lt_stop
  obtain ⟨front, c, rest, whole, shown, rfl⟩ := trace.exists_cut_behind member
  obtain ⟨same, inside, ends⟩ := Token.extent_of_unrecognized shown unrecognized
  have behind : ∀ k, text.toList.drop (front.length + k) = (c :: rest).drop k := by
    intro k
    rw [whole, List.drop_length_add_append]
  have last : text.toList.drop (front.length + (Token.cut c rest).lexeme.length) = (Token.cut c rest).rest := by
    rw [behind, Token.drop_cut]
  simp only [Occurrence.stop, Position.behind, String.length_ofList] at filled ⊢
  have free : ∀ place, front.length ≤ place → place < front.length + (Token.cut c rest).lexeme.length →
      ¬Token.Boundary (text.toList.drop place) := by
    intro place low high
    obtain ⟨k, rfl⟩ := Nat.exists_eq_add_of_le low
    rw [behind]
    exact inside k (Nat.lt_of_add_lt_add_left high)
  refine ⟨same, ⟨⟨filled, last ▸ ends⟩, ?_⟩, free, ?_⟩
  · rintro place ⟨low, boundary⟩
    by_contra before
    exact free place low.le (Nat.lt_of_not_le before) boundary
  · -- the next token begins at the boundary, and there none is cut off that is unrecognized
    intro next found place
    obtain ⟨front', d, rest', whole', shown', rfl⟩ := trace.exists_cut_behind found
    have goes : d :: rest' = (Token.cut c rest).rest := by
      rw [← last, ← place, whole']
      exact List.drop_left.symm
    exact Token.recognized_of_boundary shown' (Token.isBoundary_iff.mpr (goes ▸ ends))

theorem unrecognized_ends_at_boundary_letters : ∃ here ∈ scan "2ab$.x1",
    here = ⟨.unrecognized "ab$.", "ab$.", ⟨1, 2, 1⟩⟩ ∧
    IsLeast {place | 1 < place ∧ Token.Boundary ("2ab$.x1".toList.drop place)} 5 := by
  have member : ⟨.unrecognized "ab$.", "ab$.", ⟨1, 2, 1⟩⟩ ∈ scan "2ab$.x1" := by decide +kernel
  exact ⟨_, member, rfl, (unrecognized_ends_at_boundary member rfl).2.1⟩

end CellArithmetic
