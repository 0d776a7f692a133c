import CellArithmetic.Formula
import CellArithmetic.Proofs.CanonicalName
import CellArithmetic.Proofs.Extent
import CellArithmetic.Proofs.Runs

/-! Letter case. In capital letters a text has the same tokens at the same places, themselves in
capital letters, and it is read as the same formula or refused for the same violation. Only the
ASCII letters have a case here. -/
namespace CellArithmetic

open Text

namespace Text

/-- The text in capital letters. -/
def raised (s : String) : String := String.ofList (s.toList.map Char.toUpper)

theorem raised_ofList (s : List Char) : raised (String.ofList s) = String.ofList (s.map Char.toUpper) := by
  rw [raised, String.toList_ofList]

theorem toUpper_of_not_alpha {c : Char} (other : c.isAlpha = false) : c.toUpper = c := by
  rw [Bool.eq_false_iff, ne_eq, isAlpha_iff_toNat] at other
  rw [← Char.toNat_inj, toNat_toUpper, if_neg (by omega)]

/-- What does not tell letters from each other does not see their case. -/
theorem apply_toUpper {f : Char → α} (blind : ∀ c d, c.isAlpha = true → d.isAlpha = true → f c = f d)
    (c : Char) : f c.toUpper = f c := by
  cases alpha : c.isAlpha with
  | true => exact blind _ _ ((isAlpha_toUpper c).trans alpha) alpha
  | false => rw [toUpper_of_not_alpha alpha]

theorem isDigit_toUpper (c : Char) : c.toUpper.isDigit = c.isDigit := by
  have letter : ∀ c : Char, c.isAlpha = true → c.isDigit = false := by
    intro c alpha
    rw [Bool.eq_false_iff]
    intro digit
    rw [not_alpha_of_digit digit] at alpha
    cases alpha
  exact apply_toUpper (fun c d alpha alpha' => (letter c alpha).trans (letter d alpha').symm) c

theorem plain_of_alpha {c : Char} (alpha : c.isAlpha = true) :
    isBlank c = false ∧ c ≠ '(' ∧ c ≠ ')' ∧ Operator.ofChar? c = none :=
  plain_of_inner (by simp [isInner, alpha])

theorem isBlank_toUpper (c : Char) : isBlank c.toUpper = isBlank c :=
  apply_toUpper (fun _ _ alpha alpha' => (plain_of_alpha alpha).1.trans (plain_of_alpha alpha').1.symm) c

theorem ofChar?_toUpper (c : Char) : Operator.ofChar? c.toUpper = Operator.ofChar? c :=
  apply_toUpper
    (fun _ _ alpha alpha' => (plain_of_alpha alpha).2.2.2.trans (plain_of_alpha alpha').2.2.2.symm) c

/-- No letter becomes another character, and no other character changes. -/
theorem toUpper_eq_iff {c d : Char} (plain : d.isAlpha = false) : c.toUpper = d ↔ c = d := by
  have other : ∀ c : Char, c.isAlpha = true → ¬c = d := by
    rintro c alpha rfl
    rw [plain] at alpha
    cases alpha
  have same : (c.toUpper = d) = (c = d) := apply_toUpper (f := fun c => c = d)
    (fun c e alpha alpha' => propext (iff_of_false (other c alpha) (other e alpha'))) c
  exact Iff.of_eq same

theorem toUpper_beq {d : Char} (plain : d.isAlpha = false) (c : Char) : (c.toUpper == d) = (c == d) := by
  rw [Bool.eq_iff_iff, beq_iff_eq, beq_iff_eq, toUpper_eq_iff plain]

theorem map_toUpper_of_digits {s : List Char} (digit : ∀ c ∈ s, c.isDigit = true) :
    s.map Char.toUpper = s :=
  (List.map_congr_left fun c member => toUpper_of_not_alpha (not_alpha_of_digit (digit c member))).trans
    (List.map_id s)

/-- The mark of an exponent is one letter, in either case. -/
theorem exponentMark_toUpper (c : Char) :
    c.toUpper = 'e' ∨ c.toUpper = 'E' ↔ c = 'e' ∨ c = 'E' := by
  simp only [← Char.toNat_inj, toNat_toUpper, Char.reduceToNat]
  split <;> omega

section Classes

variable {p : Char → Bool} (blind : ∀ c : Char, p c.toUpper = p c) (s : List Char)

include blind

theorem takeWhile_toUpper : (s.map Char.toUpper).takeWhile p = (s.takeWhile p).map Char.toUpper := by
  rw [List.takeWhile_map, show p ∘ Char.toUpper = p from funext blind]

theorem dropWhile_toUpper : (s.map Char.toUpper).dropWhile p = (s.dropWhile p).map Char.toUpper := by
  rw [List.dropWhile_map, show p ∘ Char.toUpper = p from funext blind]

theorem any_head_toUpper : (s.map Char.toUpper).head?.any p = s.head?.any p := by
  cases s with
  | nil => rfl
  | cons c s => exact blind c

end Classes

theorem takeDigits_toUpper (s : List Char) :
    (s.map Char.toUpper).takeWhile Char.isDigit = s.takeWhile Char.isDigit := by
  rw [takeWhile_toUpper isDigit_toUpper]
  exact map_toUpper_of_digits fun c => List.mem_takeWhile_imp

theorem advance_toUpper (place : Position) (s : List Char) :
    place.advance (s.map Char.toUpper) = place.advance s := by
  have next : ∀ (place : Position) (c : Char), place.next c.toUpper = place.next c := by
    intro place c
    simp only [Position.next, toUpper_eq_iff (show '\n'.isAlpha = false from rfl)]
  induction s generalizing place with
  | nil => rfl
  | cons c s ih => rw [List.map_cons, Position.advance_cons, Position.advance_cons, next, ih]

end Text

namespace Literal

def Power.raised (power : Power) : Power := { power with mark := power.mark.toUpper }

/-- The literal with the mark of its exponent in capitals. -/
def raised (literal : Literal) : Literal := { literal with power := literal.power.map Power.raised }

theorem value_raised (literal : Literal) : literal.raised.value = literal.value := by
  rcases literal with ⟨whole, fraction, _ | power⟩
  · rfl
  · rfl

theorem starts_toUpper (s : List Char) : starts (s.map Char.toUpper) = starts s := by
  cases s with
  | nil => rfl
  | cons c s =>
    rw [List.map_cons, starts_cons, starts_cons, isDigit_toUpper, any_head_toUpper isDigit_toUpper,
      toUpper_beq (show '.'.isAlpha = false from rfl)]

theorem readSign_toUpper (s : List Char) :
    readSign (s.map Char.toUpper) = ((readSign s).1, (readSign s).2.map Char.toUpper) := by
  cases s with
  | nil => rfl
  | cons c s =>
    simp only [List.map_cons, readSign_cons, toUpper_eq_iff (show '+'.isAlpha = false from rfl),
      toUpper_eq_iff (show '-'.isAlpha = false from rfl)]
    split
    · rfl
    · split <;> rfl

theorem readFraction_toUpper (s : List Char) :
    readFraction (s.map Char.toUpper) = ((readFraction s).1, (readFraction s).2.map Char.toUpper) := by
  cases s with
  | nil => rfl
  | cons c s =>
    simp only [List.map_cons, readFraction_cons, toUpper_eq_iff (show '.'.isAlpha = false from rfl),
      takeDigits_toUpper, dropWhile_toUpper isDigit_toUpper]
    split <;> rfl

theorem readPower_toUpper (s : List Char) : readPower (s.map Char.toUpper) =
    ((readPower s).1.map Power.raised, (readPower s).2.map Char.toUpper) := by
  cases s with
  | nil => rfl
  | cons mark s =>
    simp only [List.map_cons, readPower, readSign_toUpper, exponentMark_toUpper,
      any_head_toUpper isDigit_toUpper, takeDigits_toUpper, dropWhile_toUpper isDigit_toUpper]
    split <;> rfl

theorem read_toUpper (s : List Char) :
    read (s.map Char.toUpper) = ((read s).1.raised, (read s).2.map Char.toUpper) := by
  simp only [read, takeDigits_toUpper, dropWhile_toUpper isDigit_toUpper, readFraction_toUpper,
    readPower_toUpper, raised]

/-- The text in capitals is read as the literal in capitals. -/
theorem text_read_toUpper (s : List Char) : (read s).1.raised.text = (read s).1.text.map Char.toUpper := by
  have whole := text_append_rest (s.map Char.toUpper)
  have parts := congrArg (List.map Char.toUpper) (text_append_rest s)
  rw [read_toUpper, ← parts, List.map_append] at whole
  exact List.append_cancel_right whole

end Literal

namespace CellName

theorem starts_toUpper (s : List Char) : starts (s.map Char.toUpper) = starts s := by
  cases s with
  | nil => rfl
  | cons c s =>
    rw [List.map_cons, starts, starts, ← List.map_cons, dropWhile_toUpper isAlpha_toUpper,
      any_head_toUpper isDigit_toUpper, isAlpha_toUpper]

theorem read_toUpper (s : List Char) :
    read (s.map Char.toUpper) = ((read s).1.map Char.toUpper, (read s).2.map Char.toUpper) := by
  simp only [read, List.map_append, takeWhile_toUpper isAlpha_toUpper,
    dropWhile_toUpper isAlpha_toUpper, takeWhile_toUpper isDigit_toUpper,
    dropWhile_toUpper isDigit_toUpper]

/-- Names that differ in the case of their letters are names of one cell. -/
theorem canonical_raised (named : IsName name) :
    canonical (Text.raised (String.ofList name)) = canonical (String.ofList name) := by
  obtain @⟨letters, digits, _, alpha, number, digit⟩ := named
  rw [raised_ofList, List.map_append, map_toUpper_of_digits digit,
    canonical_ofList (alpha_of_mem_map_toUpper alpha) number digit, map_toUpper_toUpper,
    canonical_ofList alpha number digit]

end CellName

namespace Token

theorem isBoundary_toUpper (s : List Char) : isBoundary (s.map Char.toUpper) = isBoundary s := by
  cases s with
  | nil => rfl
  | cons c s =>
    rw [List.map_cons, isBoundary, isBoundary, ← List.map_cons, isBlank_toUpper, ofChar?_toUpper,
      Literal.starts_toUpper, CellName.starts_toUpper, toUpper_beq (show '('.isAlpha = false from rfl),
      toUpper_beq (show ')'.isAlpha = false from rfl)]

theorem chunk_toUpper (c : Char) (s : List Char) : chunk c.toUpper (s.map Char.toUpper) =
    ((chunk c s).1.map Char.toUpper, (chunk c s).2.map Char.toUpper) := by
  rw [chunk, chunk, isAlpha_toUpper, takeWhile_toUpper isAlpha_toUpper,
    dropWhile_toUpper isAlpha_toUpper]
  split <;> rfl

theorem run_toUpper (s : List Char) :
    run (s.map Char.toUpper) = ((run s).1.map Char.toUpper, (run s).2.map Char.toUpper) := by
  fun_induction run s with
  | case1 => exact run_of_boundary rfl
  | case2 c s stops =>
    rw [stopsRun_eq_isBoundary, ← isBoundary_toUpper] at stops
    exact run_of_boundary stops
  | case3 c s free tail ih =>
    rw [stopsRun_eq_isBoundary, ← isBoundary_toUpper, Bool.not_eq_true] at free
    rw [List.map_cons, run_of_not_boundary free, chunk_toUpper, List.map_append, ih]

/-- The token with the text it holds in capitals. -/
def raised : Token → Token
  | cell name => .cell (Text.raised name)
  | unrecognized text => .unrecognized (Text.raised text)
  | token => token

/-- A cut takes the same from a text in capitals. -/
theorem cut_toUpper (shown : isBlank c = false) : cut c.toUpper (s.map Char.toUpper) =
    ⟨(cut c s).token.raised, (cut c s).lexeme.map Char.toUpper, (cut c s).rest.map Char.toUpper⟩ := by
  have front := isBoundary_toUpper (c :: s)
  cases boundary : isBoundary (c :: s) with
  | false =>
    rw [boundary] at front
    rw [cut_of_not_boundary boundary, cut_of_not_boundary front, ← List.map_cons, run_toUpper]
    simp only [raised, raised_ofList]
  | true =>
    simp only [isBoundary, shown, Bool.false_or, Bool.or_eq_true, beq_iff_eq, Option.isSome_iff_exists,
      Operator.ofChar?_eq_some_iff] at boundary
    obtain (((rfl | rfl) | ⟨op, rfl⟩) | number) | name := boundary
    · rfl
    · rfl
    · cases op <;> rfl
    · rw [(cut_literal number).2, (cut_literal ((Literal.starts_toUpper _).trans number)).2,
        ← List.map_cons, Literal.read_toUpper, Literal.value_raised, Literal.text_read_toUpper]
      rfl
    · rw [(cut_name name).2, (cut_name ((CellName.starts_toUpper _).trans name)).2,
        ← List.map_cons, CellName.read_toUpper]
      simp only [raised, raised_ofList]

end Token

namespace Occurrence

/-- The token at the same place, with what is written there in capitals. -/
def raised (here : Occurrence) : Occurrence := ⟨here.token.raised, Text.raised here.lexeme, here.position⟩

end Occurrence

theorem Text.Blanks.toUpper (blanks : Blanks w) : Blanks (w.map Char.toUpper) := by
  intro c member
  obtain ⟨d, inside, rfl⟩ := List.mem_map.mp member
  rw [isBlank_toUpper, blanks d inside]

/-- A text in capitals has the same tokens in capitals. -/
theorem ScanTrace.raised (trace : ScanTrace place s tokens) :
    ScanTrace place (s.map Char.toUpper) (tokens.map Occurrence.raised) := by
  induction trace with
  | done blanks => exact .done blanks.toUpper
  | @token w c s tokens place blanks shown _ ih =>
    have rest : ScanTrace
        ((place.advance (w.map Char.toUpper)).advance (Token.cut c.toUpper (s.map Char.toUpper)).lexeme)
        (Token.cut c.toUpper (s.map Char.toUpper)).rest (tokens.map Occurrence.raised) := by
      rw [Token.cut_toUpper shown, advance_toUpper, advance_toUpper]
      exact ih
    have trace := ScanTrace.token blanks.toUpper ((isBlank_toUpper c).trans shown) rest
    rw [Token.cut_toUpper shown, advance_toUpper] at trace
    simpa only [List.map_append, List.map_cons, Occurrence.raised, raised_ofList] using trace

theorem scan_raised (text : String) : scan (Text.raised text) = (scan text).map Occurrence.raised := by
  have trace := (ScanTrace.of_scan text).raised.drain_eq
  rw [scan, Cursor.ofText, Text.raised, String.toList_ofList, trace]

/-- The cells among the tokens of a text are names. -/
theorem isName_of_mem_scan (member : here ∈ scan text) (found : here.token = .cell name) :
    CellName.IsName name.toList := by
  obtain ⟨front, c, rest, _, _, rfl⟩ := (ScanTrace.of_scan text).exists_cut member
  obtain ⟨longest, rfl⟩ := Token.longest_of_cell found
  rw [String.toList_ofList]
  exact longest.holds

/-- The violation with the texts it holds in capitals. -/
def Violation.raised : Violation → Violation
  | empty => empty
  | invalidFirst lexeme place => invalidFirst (Text.raised lexeme) place
  | invalidLast lexeme place => invalidLast (Text.raised lexeme) place
  | invalidToken lexeme place => invalidToken (Text.raised lexeme) place
  | outOfRange lexeme place => outOfRange (Text.raised lexeme) place
  | unmatchedClose place => unmatchedClose place
  | unbalanced opened closed => unbalanced opened closed
  | afterOpenOrOperator previous lexeme place =>
    afterOpenOrOperator (Text.raised previous) (Text.raised lexeme) place
  | afterValueOrClose previous lexeme place =>
    afterValueOrClose (Text.raised previous) (Text.raised lexeme) place

namespace Token

@[simp] theorem isOperator_raised (token : Token) : token.raised.isOperator = token.isOperator := by
  cases token <;> rfl

@[simp] theorem isUnrecognized_raised (token : Token) :
    token.raised.isUnrecognized = token.isUnrecognized := by
  cases token <;> rfl

@[simp] theorem raised_beq_rightParen (token : Token) :
    (token.raised == rightParen) = (token == rightParen) := by
  cases token <;> rfl

@[simp] theorem canStart_raised (token : Token) : token.raised.canStart = token.canStart := by
  cases token <;> rfl

@[simp] theorem canEnd_raised (token : Token) : token.raised.canEnd = token.canEnd := by
  cases token <;> rfl

end Token

namespace Occurrence

theorem symbol_raised {here : Occurrence}
    (named : ∀ name, here.token = .cell name → CellName.IsName name.toList) :
    here.raised.symbol = here.symbol.mapError Violation.raised := by
  rcases here with ⟨token, lexeme, place⟩
  cases token with
  | number value =>
    simp only [symbol, raised, Token.raised]
    split <;> rfl
  | cell name =>
    have same := CellName.canonical_raised (named name rfl)
    rw [String.ofList_toList] at same
    simp only [symbol, raised, Token.raised, same]
    rfl
  | operator | leftParen | rightParen | unrecognized => rfl

theorem clash?_raised (here next : Occurrence) :
    here.raised.clash? next.raised = (here.clash? next).map Violation.raised := by
  simp only [clash?, raised, Token.canEnd_raised, Token.canStart_raised, Token.isOperator_raised,
    Token.raised_beq_rightParen]
  split
  · split <;> rfl
  · split <;> rfl

end Occurrence

namespace Formula

theorem Draft.step_raised (draft : Draft) {here : Occurrence} (next : Option Occurrence)
    (named : ∀ name, here.token = .cell name → CellName.IsName name.toList) :
    draft.step here.raised (next.map Occurrence.raised) =
      (draft.step here next).mapError Violation.raised := by
  have clash : (next.map Occurrence.raised).bind here.raised.clash? =
      (next.bind here.clash?).map Violation.raised := by
    cases next with
    | none => rfl
    | some next => exact here.clash?_raised next
  rw [step, step, Occurrence.symbol_raised named, clash]
  cases here.symbol with
  | error => rfl
  | ok symbol =>
    simp only [Except.mapError]
    split
    · rfl
    · cases next.bind here.clash? <;> rfl

theorem Draft.read_raised (draft : Draft)
    (named : ∀ here ∈ tokens, ∀ name, here.token = .cell name → CellName.IsName name.toList) :
    draft.read (tokens.map Occurrence.raised) = (draft.read tokens).mapError Violation.raised := by
  induction tokens generalizing draft with
  | nil =>
    simp only [List.map_nil, read, finish]
    split <;> rfl
  | cons here rest ih =>
    obtain ⟨first, others⟩ := List.forall_mem_cons.mp named
    rw [List.map_cons, read, read, List.head?_map, draft.step_raised _ first]
    cases draft.step here rest.head? with
    | error => rfl
    | ok draft => exact ih draft others

theorem ofTokens_raised
    (named : ∀ here ∈ tokens, ∀ name, here.token = .cell name → CellName.IsName name.toList) :
    ofTokens (tokens.map Occurrence.raised) = (ofTokens tokens).mapError Violation.raised := by
  rw [ofTokens, ofTokens, List.head?_map, List.getLast?_map]
  cases tokens.head? with
  | none => rfl
  | some first =>
    cases tokens.getLast? with
    | none => rfl
    | some last =>
      simp only [Option.map_some, Occurrence.raised, Token.isUnrecognized_raised, Token.canStart_raised,
        Token.canEnd_raised]
      split
      · rfl
      · split
        · rfl
        · exact Draft.blank.read_raised named

/-- In capitals a text is the same formula, or has the same violation. -/
theorem ofText_raised (text : String) :
    ofText (Text.raised text) = (ofText text).mapError Violation.raised := by
  rw [ofText, ofText, scan_raised]
  exact ofTokens_raised fun here member name => isName_of_mem_scan member

/-- Texts that differ in the case of letters only have the same tokens but for the case of letters in
them, and they are one formula or have one violation, again but for the case of letters in it. -/
theorem letter_case_is_ignored {s t : String} (same : Text.raised s = Text.raised t) :
    (scan s).map Occurrence.raised = (scan t).map Occurrence.raised ∧
    ((∃ formula, ofText s = .ok formula ∧ ofText t = .ok formula) ∨
      ∃ one other, ofText s = .error one ∧ ofText t = .error other ∧ one.raised = other.raised) := by
  have results := ofText_raised s
  rw [same, ofText_raised t] at results
  refine ⟨by rw [← scan_raised, ← scan_raised, same], ?_⟩
  cases left : ofText s with
  | ok formula =>
    cases right : ofText t with
    | ok other =>
      rw [left, right] at results
      cases results
      exact .inl ⟨_, rfl, rfl⟩
    | error other =>
      rw [left, right] at results
      cases results
  | error one =>
    cases right : ofText t with
    | ok formula =>
      rw [left, right] at results
      cases results
    | error other =>
      rw [left, right] at results
      exact .inr ⟨one, other, rfl, rfl, (Except.error.inj results).symm⟩

/-- The letters of a name and of an exponent in either case. -/
theorem letter_case_is_ignored_exponent : Text.raised "aB01/2e3" = Text.raised "Ab01/2E3" ∧
    (scan "aB01/2e3").map Occurrence.raised = (scan "Ab01/2E3").map Occurrence.raised ∧
    ∃ formula, ofText "aB01/2e3" = .ok formula ∧ ofText "Ab01/2E3" = .ok formula ∧
      formula.text = "AB1/2000" := by
  have same : Text.raised "aB01/2e3" = Text.raised "Ab01/2E3" := by decide +kernel
  have read : normalize "aB01/2e3" = .ok "AB1/2000" := by decide +kernel
  obtain ⟨formula, found, text⟩ := normalize_eq_ok_iff.mp read
  obtain ⟨tokens, ⟨other, left, right⟩ | ⟨one, other, left, _⟩⟩ := letter_case_is_ignored same
  · cases found.symm.trans left
    exact ⟨same, tokens, formula, found, right, text⟩
  · cases found.symm.trans left

example : Text.raised "µk" = Text.raised "µK" ∧ Text.raised "µk" ≠ Text.raised "Μk" := by decide +kernel

end Formula

end CellArithmetic
