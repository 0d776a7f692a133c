import CellArithmetic.Proofs.CanonicalName
import CellArithmetic.Proofs.Layout
import CellArithmetic.Proofs.Printing
import CellArithmetic.Serialized

/-! Canonical texts. The canonical text of a formula is scanned into one token for every
symbol, so it is read as the same formula again, and it tells apart all formulas whose
tokens do not mean the same. -/
namespace CellArithmetic

open Grammar

namespace Token

/-- The token that is scanned from the canonical spelling. -/
def settled : Token → Token
  | cell name => .cell (CellName.canonical name)
  | token => token

theorem Spelled.settled (spelled : Token.Spelled token lexeme)
    (canonical : token.Canonical symbol) :
    token.settled.Spelled symbol.text.toList ∧ token.settled.Canonical symbol := by
  cases canonical with
  | number finite => exact ⟨spelled_text spelled.unsigned finite, .number finite⟩
  | cell =>
    cases spelled with
    | cell named =>
      constructor
      · have spelled := Spelled.cell (CellName.isName_canonical named)
        rwa [String.ofList_toList] at spelled
      · have canonical : Canonical (.cell (CellName.canonical (String.ofList lexeme)))
            (.cell (CellName.canonical (CellName.canonical (String.ofList lexeme)))) := .cell
        rwa [CellName.canonical_canonical named] at canonical
  | operator =>
    constructor
    · simpa [Token.settled, Symbol.text, Operator.text] using Spelled.operator
    · exact .operator
  | leftParen => exact ⟨.leftParen, .leftParen⟩
  | rightParen => exact ⟨.rightParen, .rightParen⟩

theorem step_settled (state : State) (token : Token) :
    state.step token.settled = state.step token := by
  rcases state with ⟨depth, _ | _⟩ <;> cases token <;> rfl

theorem run_settled (state : State) (tokens : List Token) :
    state.run (tokens.map settled) = state.run tokens := by
  induction tokens generalizing state with
  | nil => rfl
  | cons token rest ih =>
    rw [List.map_cons, State.run_cons, State.run_cons, step_settled]
    exact congrArg _ (funext ih)

/-- A lexeme belongs to one token. -/
theorem Spelled.unique (one : Token.Spelled token lexeme) (two : Token.Spelled other lexeme) :
    token = other := by
  obtain ⟨c, s, first, _, cut⟩ := one.cut fun _ => Text.stops_nil _
  obtain ⟨d, t, second, _, cut'⟩ := two.cut fun _ => Text.stops_nil _
  cases first.symm.trans second
  exact (Token.Cut.mk.inj (cut.symm.trans cut')).1

/-- Tokens of one kind that mean the same, however they are written. -/
inductive Same : Token → Token → Prop where
  | number : Same (.number value) (.number value)
  | cell (same : CellName.SameCell a b) : Same (.cell a) (.cell b)
  | operator : Same (.operator op) (.operator op)
  | leftParen : Same .leftParen .leftParen
  | rightParen : Same .rightParen .rightParen

theorem same_iff_settled_eq (spelled : Token.Spelled token lexeme)
    (spelled' : Token.Spelled other lexeme') : Same token other ↔ token.settled = other.settled := by
  constructor
  · intro same
    cases same with
    | cell same =>
      cases spelled with
      | cell named =>
        cases spelled' with
        | cell named' => exact congrArg Token.cell ((CellName.canonical_eq_iff named named').mpr same)
    | number | operator | leftParen | rightParen => rfl
  · intro same
    cases spelled with
    | number =>
      cases spelled' with
      | number =>
        rw [Token.number.inj same]
        exact .number
      | _ => cases same
    | cell named =>
      cases spelled' with
      | cell named' => exact .cell ((CellName.canonical_eq_iff named named').mp (Token.cell.inj same))
      | _ => cases same
    | operator =>
      cases spelled' with
      | operator =>
        rw [Token.operator.inj same]
        exact .operator
      | _ => cases same
    | leftParen =>
      cases spelled' with
      | leftParen => exact .leftParen
      | _ => cases same
    | rightParen =>
      cases spelled' with
      | rightParen => exact .rightParen
      | _ => cases same

/-- Tokens mean the same exactly when their symbols are the same. -/
theorem same_iff_symbol_eq (spelled : Token.Spelled token lexeme)
    (spelled' : Token.Spelled other lexeme') (canonical : token.Canonical symbol)
    (canonical' : other.Canonical symbol') : Same token other ↔ symbol = symbol' := by
  obtain ⟨written, settled⟩ := spelled.settled canonical
  obtain ⟨written', settled'⟩ := spelled'.settled canonical'
  rw [same_iff_settled_eq spelled spelled']
  constructor
  · intro same
    rw [same] at settled
    exact settled.unique settled'
  · rintro rfl
    exact written.unique written'

end Token

namespace Layout

/-- The canonical text of a layout is a layout without blanks. -/
theorem exists_settled (layout : Layout parts s)
    (canonical : List.Forall₂ Token.Canonical (parts.map Prod.fst) symbols) : ∃ settled,
      Layout settled (String.join (symbols.map Symbol.text)).toList ∧
      settled.map Prod.fst = (parts.map Prod.fst).map Token.settled ∧
      settled.map Prod.snd = symbols.map (fun symbol => symbol.text.toList) ∧
      List.Forall₂ Token.Canonical (settled.map Prod.fst) symbols := by
  induction layout generalizing symbols with
  | done =>
    cases canonical
    exact ⟨[], .done Text.blanks_nil, rfl, rfl, .nil⟩
  | @token w token lexeme parts s _ spelled _ ih =>
    cases canonical with
    | @cons _ symbol _ symbols first rest =>
      obtain ⟨settled, layout, tokens, lexemes, canonical⟩ := ih rest
      obtain ⟨spelled, first⟩ := spelled.settled first
      refine ⟨(token.settled, symbol.text.toList) :: settled, ?_, ?_, ?_, .cons first canonical⟩
      · have whole := Layout.token Text.blanks_nil spelled layout
        rwa [List.nil_append, ← String.toList_append, ← String.join_cons] at whole
      · rw [List.map_cons, List.map_cons, List.map_cons, tokens]
      · rw [List.map_cons, List.map_cons, lexemes]

/-- Layouts mean the same, token by token, exactly when they have the same symbols. -/
theorem same_iff_symbols_eq (layout : Layout parts s) (layout' : Layout others t)
    (canonical : List.Forall₂ Token.Canonical (parts.map Prod.fst) symbols)
    (canonical' : List.Forall₂ Token.Canonical (others.map Prod.fst) symbols') :
    List.Forall₂ Token.Same (parts.map Prod.fst) (others.map Prod.fst) ↔ symbols = symbols' := by
  induction layout generalizing others t symbols symbols' with
  | done =>
    cases canonical
    cases layout' with
    | done =>
      cases canonical'
      exact iff_of_true .nil rfl
    | token =>
      cases canonical'
      exact iff_of_false nofun nofun
  | token _ spelled _ ih =>
    cases canonical with
    | cons first rest =>
      cases layout' with
      | done =>
        cases canonical'
        exact iff_of_false nofun nofun
      | token _ spelled' layout' =>
        cases canonical' with
        | cons first' rest' =>
          rw [List.map_cons, List.map_cons, List.forall₂_cons, List.cons.injEq, ih layout' rest rest',
            Token.same_iff_symbol_eq spelled spelled' first first']

end Layout

namespace Formula

/-- The canonical text is scanned into one token for every symbol, and read as the same
formula again. -/
theorem reread (read : ofText source = .ok formula) :
    (scan formula.text).map Occurrence.lexeme = formula.symbols.map Symbol.text ∧
      ofText formula.text = .ok formula := by
  obtain ⟨layout, accepted, symbols, canonical, rfl⟩ := layout_of_ofText read
  obtain ⟨settled, layout, tokens, lexemes, canonical⟩ := layout.exists_settled canonical
  rw [← Token.run_settled, ← tokens] at accepted
  have scanned : Cursor.pieces (.ofText (ofSymbols symbols).text) = settled :=
    layout.pieces_eq accepted .start
  constructor
  · rw [← scanned, Cursor.map_snd_pieces] at lexemes
    apply List.map_injective_iff.mpr fun _ _ => String.toList_injective
    simp only [List.map_map, Function.comp_def]
    exact lexemes
  · have again := ofText_of_run layout accepted canonical
    rwa [String.ofList_toList] at again

/-- Writing a formula canonically changes nothing: read again, as a text or from its
serialized form, it is the same formula, and its text is scanned symbol by symbol. -/
theorem canonical_text_round_trips (read : ofText source = .ok formula) :
    ofText formula.text = .ok formula ∧
    (scan formula.text).map Occurrence.lexeme = formula.symbols.map Symbol.text ∧
    (normalize source).bind normalize = normalize source ∧
    ofJson formula.toJson = .ok formula := by
  obtain ⟨lexemes, again⟩ := reread read
  refine ⟨again, lexemes, ?_, ?_⟩
  · have once : normalize source = .ok formula.text := by rw [normalize, read]; rfl
    have twice : normalize formula.text = .ok formula.text := by rw [normalize, again]; rfl
    rw [once]
    exact twice
  · rw [toJson, ofJson, again]
    rfl

theorem canonical_text_round_trips_padded : ∃ formula, ofText " (x007)+ .5e1" = .ok formula ∧
    formula.text = "(X7)+5" ∧ ofText formula.text = .ok formula ∧
    (scan formula.text).map Occurrence.lexeme = formula.symbols.map Symbol.text ∧
    (normalize " (x007)+ .5e1").bind normalize = normalize " (x007)+ .5e1" ∧
    ofJson formula.toJson = .ok formula := by
  have text : ((ofText " (x007)+ .5e1").map Formula.text).toOption = some "(X7)+5" := by
    decide +kernel
  cases read : ofText " (x007)+ .5e1" with
  | error violation => rw [read] at text; cases text
  | ok formula =>
    rw [read] at text
    exact ⟨formula, rfl, Option.some.inj text, canonical_text_round_trips read⟩

/-- Formulas that have been read are the same if their texts are. -/
theorem eq_of_text_eq (read : ofText a = .ok f) (read' : ofText b = .ok g)
    (same : f.text = g.text) : f = g := by
  have again := (reread read).2
  rw [same, (reread read').2] at again
  exact (Except.ok.inj again).symm

/-- Equality of canonical texts is equality of meaning, token by token. -/
theorem beq_iff_tokens_same (read : ofText a = .ok f) (read' : ofText b = .ok g) :
    ((f == g) = true ↔
      List.Forall₂ Token.Same ((scan a).map Occurrence.token) ((scan b).map Occurrence.token)) ∧
    ((f == g) = true → f.symbols = g.symbols ∧ f.cells = g.cells ∧ f.digest = g.digest) := by
  have equal : (f == g) = true → f = g := by
    intro same
    exact eq_of_text_eq read read' (LawfulBEq.eq_of_beq (α := String) same)
  constructor
  · obtain ⟨layout, _, symbols, canonical, rfl⟩ := layout_of_ofText read
    obtain ⟨layout', _, symbols', canonical', rfl⟩ := layout_of_ofText read'
    rw [← Cursor.map_fst_pieces, ← Cursor.map_fst_pieces,
      layout.same_iff_symbols_eq layout' canonical canonical']
    constructor
    · intro same
      exact congrArg Formula.symbols (equal same)
    · rintro rfl
      exact BEq.rfl (α := String)
  · intro same
    rw [equal same]
    exact ⟨rfl, rfl, rfl⟩

theorem beq_iff_tokens_same_respelled : ∃ f g, ofText "x1+.50" = .ok f ∧ ofText " X01 + 5e-1" = .ok g ∧
    ((f == g) = true ↔ List.Forall₂ Token.Same
      ((scan "x1+.50").map Occurrence.token) ((scan " X01 + 5e-1").map Occurrence.token)) ∧
    ((f == g) = true → f.symbols = g.symbols ∧ f.cells = g.cells ∧ f.digest = g.digest) := by
  have first : (ofText "x1+.50").toBool = true := by decide +kernel
  have second : (ofText " X01 + 5e-1").toBool = true := by decide +kernel
  cases read : ofText "x1+.50" with
  | error violation => rw [read] at first; cases first
  | ok f =>
    cases read' : ofText " X01 + 5e-1" with
    | error violation => rw [read'] at second; cases second
    | ok g => exact ⟨f, g, rfl, rfl, beq_iff_tokens_same read read'⟩

end Formula

end CellArithmetic
