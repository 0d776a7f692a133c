import CellArithmetic.Proofs.TextGrammar

/-! Formulas made of formulas. Two formulas with an operator between them are a formula, and
so is a formula in parentheses; what is read off the whole is what is read off its parts,
however the parts end and begin. -/
namespace CellArithmetic

open Grammar Text

namespace Grammar.State

/-- Behind a formula an operator leads back to where a formula may begin. -/
theorem run_operation (front : State.run .start tokens = some .final) (op : Operator)
    (back : State.run .start others = some .final) :
    State.run .start (tokens ++ .operator op :: others) = some .final := by
  rw [run_append, front, Option.bind_some, run_cons]
  exact back

theorem run_parentheses (inner : State.run .start tokens = some .final) :
    State.run .start (.leftParen :: (tokens ++ [.rightParen])) = some .final := by
  obtain ⟨derived, finite⟩ := run_eq_final_iff.mp inner
  have deeper : State.run ⟨1, .operand⟩ tokens = some ⟨1, .operator⟩ := derived.run finite 1
  rw [run_cons]
  change State.run ⟨1, .operand⟩ (tokens ++ [.rightParen]) = some .final
  rw [run_append, deeper]
  rfl

end Grammar.State

namespace Formula

theorem mem_foldl_noteCell {cells : Names} {symbols : List Symbol} :
    name ∈ symbols.foldl noteCell cells ↔ name ∈ cells ∨ Symbol.cell name ∈ symbols := by
  induction symbols generalizing cells with
  | nil => simp
  | cons symbol symbols ih =>
    rw [List.foldl_cons, ih, List.mem_cons]
    cases symbol with
    | cell other => simp [noteCell, or_assoc, or_left_comm, @eq_comm _ name]
    | number | operator | leftParen | rightParen => simp [noteCell]

/-- The cells of a formula are the ones that its symbols name. -/
theorem mem_cells_ofSymbols {symbols : List Symbol} :
    name ∈ (ofSymbols symbols).cells ↔ Symbol.cell name ∈ symbols := by
  simp [ofSymbols, mem_foldl_noteCell]

theorem text_ofSymbols_operation (front back : List Symbol) (op : Operator) :
    (ofSymbols (front ++ .operator op :: back)).text =
      (ofSymbols front).text ++ op.text ++ (ofSymbols back).text := by
  simp [ofSymbols, Symbol.text, String.append_assoc]

theorem cells_ofSymbols_operation (front back : List Symbol) (op : Operator) :
    (ofSymbols (front ++ .operator op :: back)).cells =
      (ofSymbols front).cells ∪ (ofSymbols back).cells := by
  apply Std.ExtTreeSet.ext_mem
  simp [mem_cells_ofSymbols]

theorem text_ofSymbols_parentheses (symbols : List Symbol) :
    (ofSymbols (.leftParen :: (symbols ++ [.rightParen]))).text = "(" ++ (ofSymbols symbols).text ++ ")" := by
  simp [ofSymbols, Symbol.text, String.append_assoc]

theorem cells_ofSymbols_parentheses (symbols : List Symbol) :
    (ofSymbols (.leftParen :: (symbols ++ [.rightParen]))).cells = (ofSymbols symbols).cells := by
  apply Std.ExtTreeSet.ext_mem
  simp [mem_cells_ofSymbols]

theorem ofText_operation (first : ofText a = .ok f) (op : Operator) (second : ofText b = .ok g) :
    ofText (a ++ op.text ++ b) = .ok (ofSymbols (f.symbols ++ .operator op :: g.symbols)) := by
  obtain ⟨front, accepted, symbols, canonical, rfl⟩ := layout_of_ofText first
  obtain ⟨back, accepted', others, canonical', rfl⟩ := layout_of_ofText second
  have sign : Layout [(.operator op, [op.char])] [op.char] := .single .operator
  have layout := front.append (sign.append back)
  have whole : a.toList ++ ([op.char] ++ b.toList) = (a ++ op.text ++ b).toList := by
    simp [Operator.text]
  have read := ofText_of_run layout
    (by simpa using State.run_operation accepted op accepted')
    (by simpa using List.rel_append canonical (.cons .operator canonical'))
  rwa [whole, String.ofList_toList] at read

theorem ofText_parentheses (inner : ofText a = .ok f) :
    ofText ("(" ++ a ++ ")") = .ok (ofSymbols (.leftParen :: (f.symbols ++ [.rightParen]))) := by
  obtain ⟨middle, accepted, symbols, canonical, rfl⟩ := layout_of_ofText inner
  have layout := (Layout.single .leftParen).append (middle.append (Layout.single .rightParen))
  have whole : ['('] ++ (a.toList ++ [')']) = ("(" ++ a ++ ")").toList := by simp
  have read := ofText_of_run layout
    (by simpa using State.run_parentheses accepted)
    (.cons .leftParen (by simpa using List.rel_append canonical (.cons .rightParen .nil)))
  rwa [whole, String.ofList_toList] at read

/-- Texts of formulas are joined by an operator, or put in parentheses, without a look at what
they end and begin with: the formula of the whole is joined of the formulas in the same way. -/
theorem ofText_composes (first : ofText a = .ok f) (second : ofText b = .ok g) (op : Operator) :
    (∃ whole, ofText (a ++ op.text ++ b) = .ok whole ∧
      whole.symbols = f.symbols ++ .operator op :: g.symbols ∧
      whole.text = f.text ++ op.text ++ g.text ∧ whole.cells = f.cells ∪ g.cells) ∧
    ∃ whole, ofText ("(" ++ a ++ ")") = .ok whole ∧
      whole.symbols = .leftParen :: (f.symbols ++ [.rightParen]) ∧
      whole.text = "(" ++ f.text ++ ")" ∧ whole.cells = f.cells := by
  have joined := ofText_operation first op second
  have enclosed := ofText_parentheses first
  obtain ⟨_, _, symbols, _, rfl⟩ := layout_of_ofText first
  obtain ⟨_, _, others, _, rfl⟩ := layout_of_ofText second
  exact ⟨⟨_, joined, rfl, text_ofSymbols_operation .., cells_ofSymbols_operation ..⟩,
    _, enclosed, rfl, text_ofSymbols_parentheses _, cells_ofSymbols_parentheses _⟩

theorem ofText_composes_around_points : ∃ f g, ofText " x01-2." = .ok f ∧ ofText ".5e1 " = .ok g ∧
    (∃ whole, ofText (" x01-2." ++ Operator.slash.text ++ ".5e1 ") = .ok whole ∧
      whole.symbols = f.symbols ++ .operator .slash :: g.symbols ∧
      whole.text = f.text ++ Operator.slash.text ++ g.text ∧ whole.cells = f.cells ∪ g.cells) ∧
    ∃ whole, ofText ("(" ++ " x01-2." ++ ")") = .ok whole ∧
      whole.symbols = .leftParen :: (f.symbols ++ [.rightParen]) ∧
      whole.text = "(" ++ f.text ++ ")" ∧ whole.cells = f.cells := by
  obtain ⟨f, first, _⟩ := normalize_eq_ok_iff.mp
    (show normalize " x01-2." = .ok "X1-2" by decide +kernel)
  obtain ⟨g, second, _⟩ := normalize_eq_ok_iff.mp (show normalize ".5e1 " = .ok "5" by decide +kernel)
  exact ⟨f, g, first, second, ofText_composes first second .slash⟩

/-- Without an operator between them two formulas may run into one number. -/
example : normalize "2." = .ok "2" ∧ normalize "5" = .ok "5" ∧ normalize ("2." ++ "5") = .ok "2.5" := by
  decide +kernel

end Formula

end CellArithmetic
