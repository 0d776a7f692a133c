import CellArithmetic.Proofs.Decimal
import CellArithmetic.Proofs.Layout

/-! The grammar of formulas over characters. Blanks may stand around every atom, and what
is scanned and then read as a formula is exactly what this grammar derives. -/
namespace CellArithmetic

open Grammar Text

inductive Grammar.DerivesText : Category → List Char → Prop where
  | expression (before : Blanks w) (operand : DerivesText .atom a) (behind : Blanks w')
      (more : DerivesText .continuation t) : DerivesText .expression (w ++ a ++ w' ++ t)
  | nothing : DerivesText .continuation []
  | operation (op : Operator) (before : Blanks w) (operand : DerivesText .atom a)
      (behind : Blanks w') (more : DerivesText .continuation t) :
      DerivesText .continuation (op.char :: (w ++ a ++ w' ++ t))
  | number {literal : Literal} (formed : literal.WellFormed)
      (rounds : Binary64.Rounds literal.exact value) (finite : value.isFinite = true) :
      DerivesText .atom literal.text
  | cell (named : CellName.IsName name) : DerivesText .atom name
  | parentheses (inner : DerivesText .expression e) : DerivesText .atom ('(' :: (e ++ [')']))

namespace Grammar

/-- A text is laid out as tokens of a category, none of them an infinite number. -/
def Category.Scans (category : Category) (s : List Char) : Prop :=
  ∃ parts, Layout parts s ∧ Derives category (parts.map Prod.fst) ∧
    FiniteNumbers (parts.map Prod.fst)

private theorem scans_operand (before : Blanks w) (operand : Category.atom.Scans a)
    (behind : Blanks w') (more : Category.continuation.Scans t) : ∃ front back,
      Layout (front ++ back) (w ++ a ++ w' ++ t) ∧ Derives .atom (front.map Prod.fst) ∧
      Derives .continuation (back.map Prod.fst) ∧
      FiniteNumbers (front.map Prod.fst ++ back.map Prod.fst) := by
  obtain ⟨front, layout, derived, finite⟩ := operand
  obtain ⟨back, layout', derived', finite'⟩ := more
  refine ⟨front, back, ?_, derived, derived', finiteNumbers_append.mpr ⟨finite, finite'⟩⟩
  rw [List.append_assoc, List.append_assoc]
  exact (layout.append (layout'.blanks_append behind)).blanks_append before

/-- What the grammar over characters derives is laid out as what the grammar over tokens
derives. -/
theorem DerivesText.scans (derived : DerivesText category s) : category.Scans s := by
  induction derived with
  | expression before _ behind _ operand more =>
    obtain ⟨front, back, layout, derived, derived', finite⟩ :=
      scans_operand before operand behind more
    refine ⟨front ++ back, layout, ?_, ?_⟩
    · rw [List.map_append]
      exact .expression derived derived'
    · rw [List.map_append]
      exact finite
  | nothing => exact ⟨[], .done blanks_nil, .nothing, finiteNumbers_nil⟩
  | operation op before _ behind _ operand more =>
    obtain ⟨front, back, layout, derived, derived', finite⟩ :=
      scans_operand before operand behind more
    refine ⟨(.operator op, [op.char]) :: (front ++ back), ?_, ?_, ?_⟩
    · exact (Layout.single .operator).append layout
    · rw [List.map_cons, List.map_append]
      exact .operation op derived derived'
    · rw [List.map_cons, List.map_append]
      exact finiteNumbers_cons.mpr ⟨nofun, finite⟩
  | number formed rounds finite =>
    refine ⟨[(.number _, _)], .single (.number formed), .number _, ?_⟩
    rw [(Literal.rounds_value formed).unique rounds]
    exact finiteNumbers_cons.mpr ⟨by rintro _ ⟨⟩; exact finite, finiteNumbers_nil⟩
  | cell named =>
    exact ⟨[(.cell _, _)], .single (.cell named), .cell _,
      finiteNumbers_cons.mpr ⟨nofun, finiteNumbers_nil⟩⟩
  | parentheses _ inner =>
    obtain ⟨parts, layout, derived, finite⟩ := inner
    refine ⟨(.leftParen, ['(']) :: (parts ++ [(.rightParen, [')'])]), ?_, ?_, ?_⟩
    · exact (Layout.single .leftParen).append (layout.append (Layout.single .rightParen))
    · rw [List.map_cons, List.map_append]
      exact .parentheses derived
    · rw [List.map_cons, List.map_append]
      exact finiteNumbers_cons.mpr ⟨nofun, finiteNumbers_append.mpr
        ⟨finite, finiteNumbers_cons.mpr ⟨nofun, finiteNumbers_nil⟩⟩⟩

/-- What the grammar says of a layout: blanks around an atom or in front of a continuation
belong to what stands around them. -/
def Category.Fills : Category → List Char → Prop
  | .expression, s => DerivesText .expression s
  | .continuation, s => ∃ w t, s = w ++ t ∧ Blanks w ∧ DerivesText .continuation t
  | .atom, s => ∃ w a w', s = w ++ a ++ w' ∧ Blanks w ∧ Blanks w' ∧ DerivesText .atom a

/-- A layout of one token and more. -/
private theorem layout_cons (layout : Layout parts s)
    (same : parts.map Prod.fst = token :: tokens) : ∃ w lexeme rest others,
      s = w ++ lexeme ++ rest ∧ Blanks w ∧ token.Spelled lexeme ∧ Layout others rest ∧
      others.map Prod.fst = tokens := by
  cases layout with
  | done => cases same
  | @token w token lexeme parts rest blanks spelled layout =>
    cases same
    exact ⟨w, lexeme, rest, parts, rfl, blanks, spelled, layout, rfl⟩

private theorem layout_single (layout : Layout parts s)
    (same : parts.map Prod.fst = [token]) : ∃ w lexeme w',
      s = w ++ lexeme ++ w' ∧ Blanks w ∧ Blanks w' ∧ token.Spelled lexeme := by
  obtain ⟨w, lexeme, rest, others, rfl, before, spelled, layout, none⟩ := layout_cons layout same
  cases layout with
  | done behind => exact ⟨w, lexeme, rest, rfl, before, behind, spelled⟩
  | token => cases none

private theorem fills_operand (operand : Category.atom.Fills s)
    (more : Category.continuation.Fills t) : ∃ w a w' r, s ++ t = w ++ a ++ w' ++ r ∧
      Blanks w ∧ DerivesText .atom a ∧ Blanks w' ∧ DerivesText .continuation r := by
  obtain ⟨w, a, w', rfl, before, behind, operand⟩ := operand
  obtain ⟨w'', r, rfl, blanks, more⟩ := more
  refine ⟨w, a, w' ++ w'', r, ?_, before, operand, behind.append blanks, more⟩
  simp only [List.append_assoc]

/-- A layout of what the grammar over tokens derives is derived by the grammar over
characters, up to the blanks around it. -/
theorem Derives.fills (derived : Derives category tokens) (finite : FiniteNumbers tokens)
    (layout : Layout parts s) (same : parts.map Prod.fst = tokens) : category.Fills s := by
  induction derived generalizing parts s with
  | expression _ _ operand more =>
    obtain ⟨front, back, rfl, rfl, rfl⟩ := List.map_eq_append_iff.mp same
    obtain ⟨s, t, rfl, first, second⟩ := layout.exists_append
    obtain ⟨finite, finite'⟩ := finiteNumbers_append.mp finite
    obtain ⟨w, a, w', r, same, before, operand, behind, more⟩ :=
      fills_operand (operand finite first rfl) (more finite' second rfl)
    rw [same]
    exact DerivesText.expression before operand behind more
  | nothing =>
    cases layout with
    | done blanks => exact ⟨s, [], by simp, blanks, .nothing⟩
    | token => cases same
  | operation op _ _ operand more =>
    obtain ⟨w₀, lexeme, rest, others, rfl, blanks₀, spelled, layout, same⟩ := layout_cons layout same
    cases spelled
    obtain ⟨front, back, rfl, rfl, rfl⟩ := List.map_eq_append_iff.mp same
    obtain ⟨s, t, rfl, first, second⟩ := layout.exists_append
    obtain ⟨finite, finite'⟩ := finiteNumbers_append.mp (finiteNumbers_cons.mp finite).2
    obtain ⟨w, a, w', r, whole, before, operand, behind, more⟩ :=
      fills_operand (operand finite first rfl) (more finite' second rfl)
    refine ⟨w₀, _, ?_, blanks₀, .operation op before operand behind more⟩
    rw [whole, List.append_assoc, List.singleton_append]
  | number value =>
    obtain ⟨w, lexeme, w', rfl, before, behind, spelled⟩ := layout_single layout same
    refine ⟨w, lexeme, w', rfl, before, behind, ?_⟩
    cases spelled with
    | number formed => exact .number formed (Literal.rounds_value formed) (finite _ (by simp))
  | cell name =>
    obtain ⟨w, lexeme, w', rfl, before, behind, spelled⟩ := layout_single layout same
    refine ⟨w, lexeme, w', rfl, before, behind, ?_⟩
    cases spelled with
    | cell named => exact .cell named
  | parentheses _ inner =>
    obtain ⟨w, lexeme, rest, others, rfl, before, spelled, layout, same⟩ := layout_cons layout same
    cases spelled
    obtain ⟨front, back, rfl, rfl, closed⟩ := List.map_eq_append_iff.mp same
    obtain ⟨s, t, rfl, first, second⟩ := layout.exists_append
    obtain ⟨between, lexeme, behind, rfl, blanks, after, spelled⟩ := layout_single second closed
    cases spelled
    have inside : Layout front (s ++ between) := by simpa using first.append (.done blanks)
    have finite' := (finiteNumbers_append.mp (finiteNumbers_cons.mp finite).2).1
    refine ⟨w, _, behind, ?_, before, after, .parentheses (inner finite' inside rfl)⟩
    simp only [List.append_assoc, List.cons_append, List.nil_append]

end Grammar

namespace Formula

/-- A text is a formula exactly when the grammar over characters derives it. -/
theorem ofText_succeeds_iff_derivesText {text : String} :
    (∃ formula, ofText text = .ok formula) ↔ DerivesText .expression text.toList := by
  rw [ofText, exists_ofTokens_iff_run, ← Cursor.map_fst_pieces]
  constructor
  · intro accepted
    obtain ⟨derived, finite⟩ := run_eq_final_iff.mp accepted
    exact derived.fills finite (Cursor.layout_of_run accepted) rfl
  · intro derived
    obtain ⟨parts, layout, derived, finite⟩ := derived.scans
    have accepted := run_eq_final_iff.mpr ⟨derived, finite⟩
    rw [Cursor.ofText, layout.pieces_eq accepted]
    exact accepted

end Formula

end CellArithmetic
