import CellArithmetic.Token.Scan
import Mathlib.Data.List.TakeWhile

/-! How tokens are written, and that a written token is cut off again where it ends.
Numbers and names take in whatever can continue them, so behind them the text must go on
with something else. -/
namespace CellArithmetic

namespace Text

/-- The text does not go on with a character of the class. -/
def Stops (p : Char → Bool) (s : List Char) : Prop := ∀ c ∈ s.head?, p c = false

theorem stops_nil (p : Char → Bool) : Stops p [] := by
  intro c member
  cases member

theorem stops_cons : Stops p (c :: s) ↔ p c = false := by simp [Stops]

theorem Stops.mono (stops : Stops q s) (weaker : ∀ c, p c = true → q c = true) : Stops p s :=
  fun c member => Bool.eq_false_iff.mpr fun holds =>
    Bool.eq_false_iff.mp (stops c member) (weaker c holds)

theorem stops_dropWhile (p : Char → Bool) (s : List Char) : Stops p (s.dropWhile p) := by
  intro c member
  have stop := List.head?_dropWhile_not p s
  rw [Option.mem_def.mp member] at stop
  exact stop

/-- What a class takes in is told by the text in front, if it does not go on behind. -/
theorem takeWhile_append_of_stops (stops : Stops p rest) (s : List Char) :
    (s ++ rest).takeWhile p = s.takeWhile p := by
  induction s with
  | nil =>
    cases rest with
    | nil => rfl
    | cons c rest => simp [stops_cons.mp stops]
  | cons c s ih => rw [List.cons_append, List.takeWhile_cons, List.takeWhile_cons, ih]

theorem dropWhile_append_of_stops (stops : Stops p rest) (s : List Char) :
    (s ++ rest).dropWhile p = s.dropWhile p ++ rest := by
  induction s with
  | nil =>
    cases rest with
    | nil => rfl
    | cons c rest => simp [stops_cons.mp stops]
  | cons c s ih =>
    rw [List.cons_append, List.dropWhile_cons, List.dropWhile_cons, ih]
    split <;> rfl

theorem any_head_append_of_stops (stops : Stops p rest) (s : List Char) :
    (s ++ rest).head?.any p = s.head?.any p := by
  cases s with
  | nil =>
    cases rest with
    | nil => rfl
    | cons c rest => exact stops_cons.mp stops
  | cons c s => rfl

theorem takeWhile_append (all : ∀ c ∈ s, p c = true) (stops : Stops p rest) :
    (s ++ rest).takeWhile p = s := by
  rw [takeWhile_append_of_stops stops, List.takeWhile_eq_self_iff.mpr all]

theorem dropWhile_append (all : ∀ c ∈ s, p c = true) (stops : Stops p rest) :
    (s ++ rest).dropWhile p = rest := by
  rw [dropWhile_append_of_stops stops, List.dropWhile_eq_nil_iff.mpr all, List.nil_append]

/-- The characters that can stand inside a number or a name, apart from a sign. -/
def isInner (c : Char) : Bool := c.isAlpha || c.isDigit || c == '.'

theorem isAlpha_iff_toNat {c : Char} :
    c.isAlpha = true ↔ 65 ≤ c.toNat ∧ c.toNat ≤ 90 ∨ 97 ≤ c.toNat ∧ c.toNat ≤ 122 := by
  change (decide (65 ≤ c.val ∧ c.val ≤ 90) ||
    decide (97 ≤ c.val) && decide (c.val ≤ 122)) = true ↔ _
  simp [UInt32.le_iff_toNat_le]

theorem not_alpha_of_digit {c : Char} (digit : c.isDigit = true) : c.isAlpha = false := by
  rw [Bool.eq_false_iff, ne_eq, isAlpha_iff_toNat]
  have range : 48 ≤ c.toNat ∧ c.toNat ≤ 57 := Char.isDigit_iff_toNat.mp digit
  omega

/-- What stands inside a number or a name is no blank, no parenthesis and no operator. -/
theorem plain_of_inner {c : Char} (inner : isInner c = true) :
    isBlank c = false ∧ c ≠ '(' ∧ c ≠ ')' ∧ Operator.ofChar? c = none := by
  have range : 65 ≤ c.toNat ∧ c.toNat ≤ 90 ∨ 97 ≤ c.toNat ∧ c.toNat ≤ 122 ∨
      48 ≤ c.toNat ∧ c.toNat ≤ 57 ∨ c.toNat = 46 := by
    simp only [isInner, Bool.or_eq_true, beq_iff_eq, isAlpha_iff_toNat, Char.isDigit_iff_toNat] at inner
    rcases inner with ((upper | lower) | digit) | rfl
    · exact .inl upper
    · exact .inr (.inl lower)
    · exact .inr (.inr (.inl digit))
    · exact .inr (.inr (.inr rfl))
  refine ⟨?_, ?_, ?_, ?_⟩
  · rw [Bool.eq_false_iff]
    simp [isBlank]
    omega
  · rintro rfl
    simp at range
  · rintro rfl
    simp at range
  · rw [Option.eq_none_iff_forall_ne_some]
    intro op found
    rw [Operator.ofChar?_eq_some_iff.mp found] at range
    cases op <;> simp [Operator.char] at range

end Text

open Text

namespace Literal

/-- Powers as the grammar of numbers has them: `[eE][+-]?[0-9]+`. -/
structure Power.WellFormed (power : Power) : Prop where
  mark : power.mark = 'e' ∨ power.mark = 'E'
  sign : power.sign = none ∨ power.sign = some '+' ∨ power.sign = some '-'
  filled : power.digits ≠ []
  digits : ∀ c ∈ power.digits, c.isDigit = true

/-- Numbers as the grammar has them: digits with or without a point, at least one of them
on either side of it, and perhaps a power. -/
structure WellFormed (literal : Literal) : Prop where
  whole : ∀ c ∈ literal.whole, c.isDigit = true
  fraction : ∀ digits ∈ literal.fraction, ∀ c ∈ digits, c.isDigit = true
  filled : literal.whole ≠ [] ∨ ∃ digits ∈ literal.fraction, digits ≠ []
  power : ∀ power ∈ literal.power, power.WellFormed

theorem starts_cons (c : Char) (s : List Char) :
    starts (c :: s) = (c.isDigit || c == '.' && s.head?.any Char.isDigit) := by
  by_cases point : c = '.'
  · rw [point]
    cases s <;> rfl
  · simp [starts, point]

theorem readSign_cons (c : Char) (s : List Char) : readSign (c :: s) =
    if c = '+' then (some '+', s) else if c = '-' then (some '-', s) else (none, c :: s) := by
  unfold readSign
  split <;> simp_all

theorem readFraction_cons (c : Char) (s : List Char) : readFraction (c :: s) =
    if c = '.' then (some (s.takeWhile Char.isDigit), s.dropWhile Char.isDigit) else (none, c :: s) := by
  unfold readFraction
  split <;> simp_all

private theorem readSign_append {sign : Option Char}
    (formed : sign = none ∨ sign = some '+' ∨ sign = some '-')
    (stops : Stops (fun c => c == '+' || c == '-') rest) :
    readSign (sign.toList ++ rest) = (sign, rest) := by
  rcases formed with rfl | rfl | rfl
  · unfold readSign
    split
    · rename_i same
      rw [show rest = _ from same, stops_cons] at stops
      cases stops
    · rename_i same
      rw [show rest = _ from same, stops_cons] at stops
      cases stops
    · rfl
  · rfl
  · rfl

/-- A written power is read with all the digits that follow it. -/
theorem readPower_text {power : Power} (formed : power.WellFormed) (rest : List Char) :
    readPower (power.text ++ rest) =
      (some ⟨power.mark, power.sign, (power.digits ++ rest).takeWhile Char.isDigit⟩,
        (power.digits ++ rest).dropWhile Char.isDigit) := by
  obtain ⟨mark, sign, filled, digits⟩ := formed
  obtain ⟨c, tail, first⟩ := List.exists_cons_of_ne_nil filled
  have digit : c.isDigit = true := digits c (by simp [first])
  have unsigned : Stops (fun c => c == '+' || c == '-') (power.digits ++ rest) := by
    rw [first, List.cons_append, stops_cons, Bool.eq_false_iff]
    intro signed
    rcases Bool.or_eq_true_iff.mp signed with same | same
    all_goals
      rw [beq_iff_eq.mp same] at digit
      cases digit
  have goes : ((power.digits ++ rest).head?.any Char.isDigit) = true := by simp [first, digit]
  simp only [Power.text, List.cons_append, List.append_assoc, readPower, readSign_append sign unsigned]
  rw [if_pos ⟨mark, goes⟩]

theorem readPower_append {power : Option Power} (formed : ∀ p ∈ power, p.WellFormed)
    (stops : Stops isInner rest) : readPower (power.elim [] Power.text ++ rest) = (power, rest) := by
  cases power with
  | none =>
    cases rest with
    | nil => rfl
    | cons c rest =>
      have plain : ¬(c = 'e' ∨ c = 'E') := by
        rintro (rfl | rfl) <;> cases stops_cons.mp stops
      simp [readPower, plain]
  | some power =>
    have formed := formed power rfl
    have behind : Stops Char.isDigit rest := stops.mono (by simp +contextual [isInner])
    rw [Option.elim_some, readPower_text formed, takeWhile_append formed.digits behind,
      dropWhile_append formed.digits behind]

theorem readFraction_append {fraction : Option (List Char)}
    (formed : ∀ digits ∈ fraction, ∀ c ∈ digits, c.isDigit = true)
    (stops : Stops (fun c => c.isDigit || c == '.') rest) :
    readFraction (fraction.elim [] ('.' :: ·) ++ rest) = (fraction, rest) := by
  cases fraction with
  | none =>
    unfold readFraction
    split
    · rename_i same
      rw [show rest = _ from same, stops_cons] at stops
      cases stops
    · rfl
  | some digits =>
    have behind : Stops Char.isDigit rest := stops.mono (by simp +contextual)
    simp only [Option.elim_some, List.cons_append, readFraction,
      takeWhile_append (formed digits rfl) behind, dropWhile_append (formed digits rfl) behind]

theorem Power.stops_text {power : Power} (formed : power.WellFormed) (rest : List Char) :
    Stops (fun c => c.isDigit || c == '.') (power.text ++ rest) := by
  rw [Power.text, List.cons_append, stops_cons]
  rcases formed.mark with mark | mark <;> rw [mark] <;> rfl

theorem stops_fraction (fraction : Option (List Char))
    (stops : Stops (fun c => c.isDigit || c == '.') rest) :
    Stops Char.isDigit (fraction.elim [] ('.' :: ·) ++ rest) := by
  cases fraction with
  | none => exact stops.mono (by simp +contextual)
  | some digits => exact stops_cons.mpr rfl

/-- A written number is read back as it is, up to where it ends. -/
theorem read_append {literal : Literal} (formed : literal.WellFormed)
    (stops : Stops isInner rest) : read (literal.text ++ rest) = (literal, rest) := by
  have power := readPower_append formed.power stops
  have behindPower : Stops (fun c => c.isDigit || c == '.')
      (literal.power.elim [] Power.text ++ rest) := by
    cases same : literal.power with
    | none => exact stops.mono (by grind [isInner])
    | some power => exact Power.stops_text (formed.power power same) rest
  have fraction := readFraction_append formed.fraction behindPower
  have behindWhole := stops_fraction literal.fraction behindPower
  simp only [read, text, List.append_assoc, takeWhile_append formed.whole behindWhole,
    dropWhile_append formed.whole behindWhole, fraction, power]

theorem starts_append {literal : Literal} (formed : literal.WellFormed) (rest : List Char) :
    starts (literal.text ++ rest) = true := by
  rcases literal with ⟨whole, fraction, power⟩
  cases whole with
  | cons c whole =>
    have digit : c.isDigit = true := formed.whole c List.mem_cons_self
    simp [text, starts_cons, digit]
  | nil =>
    obtain ⟨digits, found, filled⟩ := formed.filled.resolve_left (by simp)
    obtain ⟨c, digits, rfl⟩ := List.exists_cons_of_ne_nil filled
    cases found
    exact formed.fraction _ rfl c (by simp)

private theorem readFraction_formed (s : List Char) :
    ∀ digits ∈ (readFraction s).1, ∀ c ∈ digits, c.isDigit = true := by
  unfold readFraction
  split
  · intro digits member c inside
    cases member
    exact List.mem_takeWhile_imp inside
  · intro digits member
    cases member

private theorem readSign_formed (s : List Char) :
    (readSign s).1 = none ∨ (readSign s).1 = some '+' ∨ (readSign s).1 = some '-' := by
  unfold readSign
  split <;> simp

private theorem readPower_formed (s : List Char) : ∀ power ∈ (readPower s).1, power.WellFormed := by
  unfold readPower
  split
  · intro power member
    cases member
  · rename_i mark s
    dsimp only
    split
    · rename_i found
      intro power member
      cases member
      refine ⟨found.1, readSign_formed s, ?_, fun c inside => List.mem_takeWhile_imp inside⟩
      have digit := found.2
      cases rest : (readSign s).2 with
      | nil => simp [rest] at digit
      | cons c rest =>
        rw [rest] at digit
        have digit : c.isDigit = true := digit
        simp [digit]
    · intro power member
      cases member

theorem head_of_starts (front : starts (c :: s) = true) : c.isDigit = true ∨ c = '.' := by
  rw [starts_cons, Bool.or_eq_true, Bool.and_eq_true, beq_iff_eq] at front
  exact front.imp_right And.left

/-- Where a number begins, what is read is a number. -/
theorem wellFormed_read (front : starts s = true) : (read s).1.WellFormed where
  whole c member := List.mem_takeWhile_imp member
  fraction := readFraction_formed _
  power := readPower_formed _
  filled := by
    unfold starts at front
    split at front
    · exact .inr ⟨_, rfl, by simp [front]⟩
    · exact .inl (by simp [read, front])
    · cases front

end Literal

namespace CellName

/-- Names as the grammar has them: `[A-Za-z]+[0-9]+`. -/
inductive IsName : List Char → Prop where
  | mk (letter : letters ≠ []) (alpha : ∀ c ∈ letters, c.isAlpha = true)
      (number : digits ≠ []) (digit : ∀ c ∈ digits, c.isDigit = true) : IsName (letters ++ digits)

theorem IsName.inner (named : IsName name) : ∀ c ∈ name, isInner c = true := by
  obtain ⟨_, alpha, _, digit⟩ := named
  intro c member
  rcases List.mem_append.mp member with letter | number
  · simp [isInner, alpha c letter]
  · simp [isInner, digit c number]

theorem stops_digits (number : digits ≠ []) (digit : ∀ c ∈ digits, c.isDigit = true)
    (rest : List Char) : Stops Char.isAlpha (digits ++ rest) := by
  obtain ⟨c, tail, rfl⟩ := List.exists_cons_of_ne_nil number
  exact stops_cons.mpr (not_alpha_of_digit (digit c (by simp)))

/-- A written name is read back as it is, up to where it ends. -/
theorem read_append (named : IsName name) (stops : Stops isInner rest) :
    read (name ++ rest) = (name, rest) := by
  obtain ⟨_, alpha, number, digit⟩ := named
  have behind : Stops Char.isDigit rest := stops.mono (by grind [isInner])
  have between := stops_digits number digit rest
  simp only [read, List.append_assoc, takeWhile_append alpha between, dropWhile_append alpha between,
    takeWhile_append digit behind, dropWhile_append digit behind]

theorem starts_append (named : IsName name) (rest : List Char) : starts (name ++ rest) = true := by
  obtain ⟨letter, alpha, number, digit⟩ := named
  rename_i letters digits
  have between := dropWhile_append alpha (stops_digits number digit rest)
  obtain ⟨c, letters, rfl⟩ := List.exists_cons_of_ne_nil letter
  obtain ⟨d, digits, rfl⟩ := List.exists_cons_of_ne_nil number
  rw [List.append_assoc, List.cons_append, starts, ← List.cons_append, between]
  simp [alpha c (by simp), digit d (by simp)]

/-- Where a name begins, what is read is a name. -/
theorem isName_read (front : starts s = true) : IsName (read s).1 := by
  cases s with
  | nil => cases front
  | cons c s =>
    simp only [starts, Bool.and_eq_true] at front
    obtain ⟨alpha, digit⟩ := front
    refine ⟨by simp [alpha], fun _ => List.mem_takeWhile_imp, ?_, fun _ => List.mem_takeWhile_imp⟩
    cases rest : (c :: s).dropWhile Char.isAlpha with
    | nil => simp [rest] at digit
    | cons d rest =>
      rw [rest] at digit
      have digit : d.isDigit = true := digit
      simp [digit]

/-- The check of a whole text takes just the names. -/
theorem isName_iff : isName text = true ↔ IsName text.toList := by
  simp only [isName, Bool.and_eq_true, Bool.not_eq_true', List.isEmpty_eq_false_iff, List.all_eq_true]
  generalize text.toList = s
  constructor
  · intro ⟨⟨letter, number⟩, digit⟩
    rw [← List.takeWhile_append_dropWhile (p := Char.isAlpha) (l := s)]
    exact .mk letter (fun _ => List.mem_takeWhile_imp) number digit
  · rintro ⟨letter, alpha, number, digit⟩
    have stops := stops_digits number digit []
    rw [List.append_nil] at stops
    rw [takeWhile_append alpha stops, dropWhile_append alpha stops]
    exact ⟨⟨letter, number⟩, digit⟩

theorem canonical?_eq_some_iff :
    canonical? text = some cell ↔ IsName text.toList ∧ canonical text = cell := by
  rw [← isName_iff, canonical?]
  split <;> simp_all

end CellName

namespace Token

/-- Token and text that it is written as. What is unrecognized is not written by a rule. -/
inductive Spelled : Token → List Char → Prop where
  | number {literal : Literal} (formed : literal.WellFormed) :
      Spelled (.number literal.value) literal.text
  | cell (named : CellName.IsName name) : Spelled (.cell (String.ofList name)) name
  | operator : Spelled (.operator op) [op.char]
  | leftParen : Spelled .leftParen ['(']
  | rightParen : Spelled .rightParen [')']

/-- What is cut off and recognized is spelled by the rules. -/
theorem spelled_cut (recognized : (cut c s).token.isUnrecognized = false) :
    (cut c s).token.Spelled (cut c s).lexeme := by
  unfold cut at recognized ⊢
  split
  · exact .leftParen
  · exact .rightParen
  · rename_i op found
    rw [Operator.ofChar?_eq_some_iff.mp found]
    exact .operator
  · split
    · rename_i front
      exact .number (Literal.wellFormed_read front)
    · split
      · rename_i front
        exact .cell (CellName.isName_read front)
      · simp_all [isUnrecognized]

/-- A closing parenthesis is written in one way. -/
theorem cut_of_rightParen (close : (cut c s).token = .rightParen) :
    c = ')' ∧ (cut c s).lexeme = [')'] := by
  have spelled : Spelled (cut c s).token (cut c s).lexeme := spelled_cut (by rw [close]; rfl)
  have whole := cut_append c s
  rw [close] at spelled
  generalize (cut c s).lexeme = lexeme at spelled whole
  cases spelled
  exact ⟨(List.cons.inj whole).1.symm, rfl⟩

theorem Spelled.ne_nil (spelled : Spelled token lexeme) : lexeme ≠ [] := by
  cases spelled with
  | number formed =>
    intro empty
    have front := Literal.starts_append formed []
    rw [empty] at front
    cases front
  | cell named =>
    obtain ⟨letter, _, _, _⟩ := named
    simp [letter]
  | operator | leftParen | rightParen => simp

theorem cut_literal (front : Literal.starts (c :: s) = true) :
    isBlank c = false ∧ cut c s =
      ⟨.number (Literal.read (c :: s)).1.value, (Literal.read (c :: s)).1.text,
        (Literal.read (c :: s)).2⟩ := by
  have inner : isInner c = true := by
    rcases Literal.head_of_starts front with digit | point
    · simp [isInner, digit]
    · simp [isInner, point]
  obtain ⟨shown, notOpen, notClose, noOperator⟩ := plain_of_inner inner
  refine ⟨shown, ?_⟩
  unfold cut
  split
  · contradiction
  · contradiction
  · simp_all
  · rw [if_pos front]

theorem cut_name (front : CellName.starts (c :: s) = true) :
    isBlank c = false ∧ cut c s =
      ⟨.cell (String.ofList (CellName.read (c :: s)).1), (CellName.read (c :: s)).1,
        (CellName.read (c :: s)).2⟩ := by
  have alpha : c.isAlpha = true := by
    simp only [CellName.starts, Bool.and_eq_true] at front
    exact front.1
  have inner : isInner c = true := by simp [isInner, alpha]
  obtain ⟨shown, notOpen, notClose, noOperator⟩ := plain_of_inner inner
  have noLiteral : ¬Literal.starts (c :: s) = true := by
    intro number
    rcases Literal.head_of_starts number with digit | rfl
    · simp [not_alpha_of_digit digit] at alpha
    · cases alpha
  refine ⟨shown, ?_⟩
  unfold cut
  split
  · contradiction
  · contradiction
  · simp_all
  · rw [if_neg noLiteral, if_pos front]

/-- A token that is spelled out at the front of a text is cut off there, if the text does
not go on with what could continue a number or a name. -/
theorem Spelled.cut {token : Token} (spelled : token.Spelled lexeme)
    (stops : token.isValue = true → Stops isInner rest) :
    ∃ c s, lexeme ++ rest = c :: s ∧ isBlank c = false ∧ cut c s = ⟨token, lexeme, rest⟩ := by
  obtain ⟨c, s, first⟩ : ∃ c s, lexeme ++ rest = c :: s :=
    List.exists_cons_of_ne_nil (by simp [spelled.ne_nil])
  refine ⟨c, s, first, ?_⟩
  cases spelled with
  | number formed =>
    have front := Literal.starts_append formed rest
    have read := Literal.read_append formed (stops rfl)
    rw [first] at front read
    simpa only [read] using cut_literal front
  | cell named =>
    have front := CellName.starts_append named rest
    have read := CellName.read_append named (stops rfl)
    rw [first] at front read
    simpa only [read] using cut_name front
  | @operator op =>
    cases first
    cases op <;> exact ⟨rfl, rfl⟩
  | leftParen | rightParen =>
    cases first
    exact ⟨rfl, rfl⟩

end Token

end CellArithmetic
