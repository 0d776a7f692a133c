import CellArithmetic.Proofs.CanonicalName
import CellArithmetic.Proofs.CanonicalNumber
import CellArithmetic.Proofs.Composition

/-! What a formula keeps of its tokens. Symbols, text and cells are collected side by side and
still belong together: the text is that of the symbols, and the cells are those among them. All
that is written comes from one small alphabet. -/
namespace CellArithmetic

open Grammar

namespace Text

/-- The alphabet of canonical texts: `[0-9A-Z.+*/()-]`. -/
def isCanonical (c : Char) : Bool :=
  c.isDigit || c.isUpper || ['.', '+', '-', '*', '/', '(', ')'].contains c

theorem isCanonical_of_digit {c : Char} (digit : c.isDigit = true) : isCanonical c = true := by
  rw [isCanonical, digit]
  rfl

theorem isCanonical_of_upper {c : Char} (upper : c.isUpper = true) : isCanonical c = true := by
  rw [isCanonical, upper, Bool.or_true]
  rfl

end Text

open Text

theorem Literal.IsCanonical.chars (canonical : Literal.IsCanonical s) :
    ∀ c ∈ s, isCanonical c = true := by
  intro c member
  cases canonical with
  | whole plain => exact isCanonical_of_digit (plain.isDigit c member)
  | places plain front last nonzero =>
    simp only [List.mem_append, List.mem_cons, List.not_mem_nil, or_false] at member
    rcases member with member | rfl | member | rfl
    · exact isCanonical_of_digit (plain.isDigit c member)
    · rfl
    · exact isCanonical_of_digit (front c member)
    · exact isCanonical_of_digit last

theorem CellName.IsCanonical.chars (canonical : CellName.IsCanonical s) :
    ∀ c ∈ s, isCanonical c = true := by
  intro c member
  obtain ⟨_, upper, plain⟩ := canonical
  rcases List.mem_append.mp member with member | member
  · exact isCanonical_of_upper (upper c member)
  · exact isCanonical_of_digit (plain.isDigit c member)

theorem Token.Spelled.symbol_chars (spelled : Token.Spelled token lexeme) (canonical : token.Canonical sign) :
    ∀ c ∈ sign.text.toList, isCanonical c = true := by
  cases canonical with
  | @number value finite =>
    have form : Literal.IsCanonical value.text.toList := by
      rw [Binary64.text_of_finite spelled.unsigned finite, String.toList_ofList]
      exact Literal.isCanonical_positional _ _
    exact form.chars
  | cell =>
    cases spelled with
    | cell named => exact (CellName.isCanonical_canonical named).chars
  | @operator op =>
    intro c member
    rw [Symbol.text, Operator.text, String.toList_singleton, List.mem_singleton] at member
    subst member
    cases op <;> rfl
  | leftParen | rightParen => simp [Symbol.text, isCanonical]

namespace Formula

/-- One canonical symbol for every token and in their order, the text of the symbols one after the
other, and the names among them. -/
structure Records (tokens : List Token) (formula : Formula) : Prop where
  size : formula.symbols.length = tokens.length
  image : List.Forall₂ Token.Canonical tokens formula.symbols
  joined : formula.text = String.join (formula.symbols.map Symbol.text)
  named : ∀ name, name ∈ formula.cells ↔ Symbol.cell name ∈ formula.symbols

theorem records_ofSymbols {signs : List Symbol} (canonical : List.Forall₂ Token.Canonical tokens signs) :
    Records tokens (ofSymbols signs) where
  size := canonical.length_eq.symm
  image := canonical
  joined := rfl
  named _ := mem_cells_ofSymbols

theorem chars_of_ofText (read : ofText source = .ok formula) :
    ∀ c ∈ formula.text.toList, isCanonical c = true := by
  obtain ⟨layout, _, signs, canonical, rfl⟩ := layout_of_ofText read
  intro c member
  rw [ofSymbols, String.toList_join, List.mem_flatMap] at member
  obtain ⟨text, written, member⟩ := member
  obtain ⟨sign, inside, rfl⟩ := List.mem_map.mp written
  obtain ⟨token, lexeme, spelled, canonical⟩ := layout.exists_spelled canonical inside
  exact spelled.symbol_chars canonical c member

/-- A formula that is read off tokens keeps one symbol for each of them, and its text and its cells
are those of the symbols. If the tokens were scanned, the text is in the canonical alphabet. -/
theorem ofTokens_records (read : ofTokens tokens = .ok formula) :
    Records (tokens.map Occurrence.token) formula ∧
    ∀ source, tokens = scan source → ∀ c ∈ formula.text.toList, isCanonical c = true := by
  constructor
  · obtain ⟨_, signs, canonical, rfl⟩ := ofTokens_eq_ok_iff.mp read
    exact records_ofSymbols canonical
  · rintro source rfl
    exact chars_of_ofText read

/-- One cell in two spellings, and a number that is written with a point and a power. -/
theorem ofTokens_records_respelled : ∃ formula, ofTokens (scan "(x007)+ X07*.5e1") = .ok formula ∧
    formula.text = "(X7)+X7*5" ∧ formula.cells.toList = ["X7"] ∧
    Records ((scan "(x007)+ X07*.5e1").map Occurrence.token) formula ∧
    ∀ c ∈ formula.text.toList, isCanonical c = true := by
  have told : ((ofText "(x007)+ X07*.5e1").map fun formula => (formula.text, formula.cells.toList)).toOption =
      some ("(X7)+X7*5", ["X7"]) := by
    decide +kernel
  cases read : ofText "(x007)+ X07*.5e1" with
  | error violation => rw [read] at told; cases told
  | ok formula =>
    rw [read] at told
    obtain ⟨text, cells⟩ := Prod.mk.inj (Option.some.inj told)
    obtain ⟨records, chars⟩ := ofTokens_records read
    exact ⟨formula, read, text, cells, records, chars _ rfl⟩

end Formula

end CellArithmetic
