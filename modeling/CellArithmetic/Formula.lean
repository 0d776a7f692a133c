import CellArithmetic.Binary64.Shortest
import CellArithmetic.Names
import CellArithmetic.Sha256
import CellArithmetic.Token.Scan
import CellArithmetic.Violation

/-! Formulas in canonical form. A formula is its canonical symbols; two formulas are
equal when the symbols, written without separators, are the same text. A sequence of
tokens is refused for the first violation in a fixed order: no token at all, then a
wrong first or last token, then one token after the other, then the balance. -/
namespace CellArithmetic

/-- A token in canonical spelling. -/
inductive Symbol where
  | number (text : String)
  | cell (name : String)
  | operator (op : Operator)
  | leftParen
  | rightParen
deriving DecidableEq, Repr

def Symbol.text : Symbol → String
  | number text => text
  | cell name => name
  | operator op => op.text
  | leftParen => "("
  | rightParen => ")"

/-- A formula is read off its tokens once: the symbols, their text, and the canonical
names of the cells that it refers to. -/
structure Formula where
  symbols : List Symbol
  text : String
  cells : Names

namespace Formula

instance : BEq Formula := ⟨fun f g => f.text == g.text⟩

instance : Hashable Formula := ⟨fun f => hash f.text⟩

instance : ToString Formula := ⟨text⟩

/-- The digest of the canonical text: equal for equal formulas. -/
def digest (formula : Formula) : String := Sha256.hexDigest formula.text

end Formula

namespace Occurrence

/-- The canonical symbol of a token; only finite numbers and recognized tokens have one. -/
def symbol (here : Occurrence) : Except Violation Symbol :=
  match here.token with
  | .number value =>
    if value.isFinite then .ok (.number value.text) else .error (.outOfRange here.lexeme here.position)
  | .cell name => .ok (.cell (CellName.canonical name))
  | .operator op => .ok (.operator op)
  | .leftParen => .ok .leftParen
  | .rightParen => .ok .rightParen
  | .unrecognized _ => .error (.invalidToken here.lexeme here.position)

/-- What is wrong with `next` standing right after a token: after a value or a closing
parenthesis only an operator or a closing parenthesis fits, after any other token only
what can start a formula. -/
def clash? (here next : Occurrence) : Option Violation :=
  if here.token.canEnd then
    if next.token.isOperator || next.token == .rightParen then none
    else some (.afterValueOrClose here.lexeme next.lexeme next.position)
  else if next.token.canStart then none
  else some (.afterOpenOrOperator here.lexeme next.lexeme next.position)

end Occurrence

namespace Formula

/-- How far reading has come: the numbers of parentheses opened and closed so far, and
what is written so far. -/
structure Draft where
  opened : Nat
  closed : Nat
  symbols : Array Symbol
  text : String
  cells : Names

namespace Draft

def blank : Draft := ⟨0, 0, #[], "", ∅⟩

/-- Counts a parenthesis, and notes a cell. -/
def note (draft : Draft) : Symbol → Draft
  | .leftParen => { draft with opened := draft.opened + 1 }
  | .rightParen => { draft with closed := draft.closed + 1 }
  | .cell name => { draft with cells := draft.cells.insert name }
  | .number _ | .operator _ => draft

def write (draft : Draft) (symbol : Symbol) : Draft :=
  { draft with symbols := draft.symbols.push symbol, text := draft.text ++ symbol.text }

/-- Reads one token, with the one that stands behind it in sight. -/
def step (draft : Draft) (here : Occurrence) (next : Option Occurrence) : Except Violation Draft :=
  match here.symbol with
  | .error violation => .error violation
  | .ok symbol =>
    let noted := draft.note symbol
    if noted.opened < noted.closed then .error (.unmatchedClose here.position)
    else
      match next.bind here.clash? with
      | some violation => .error violation
      | none => .ok (noted.write symbol)

def finish (draft : Draft) : Except Violation Formula :=
  if draft.opened = draft.closed then .ok ⟨draft.symbols.toList, draft.text, draft.cells⟩
  else .error (.unbalanced draft.opened draft.closed)

def read (draft : Draft) : List Occurrence → Except Violation Formula
  | [] => draft.finish
  | here :: rest =>
    match draft.step here rest.head? with
    | .error violation => .error violation
    | .ok draft => draft.read rest

end Draft

def ofTokens (tokens : List Occurrence) : Except Violation Formula :=
  match tokens.head?, tokens.getLast? with
  | some first, some last =>
    if !first.token.isUnrecognized && !first.token.canStart then
      .error (.invalidFirst first.lexeme first.position)
    else if !last.token.isUnrecognized && !last.token.canEnd then
      .error (.invalidLast last.lexeme last.position)
    else Draft.blank.read tokens
  | _, _ => .error .empty

def ofText (text : String) : Except Violation Formula := ofTokens (scan text)

end CellArithmetic.Formula

namespace CellArithmetic

/-- The canonical text of a formula. -/
def normalize (text : String) : Except Violation String := (Formula.ofText text).map Formula.text

theorem normalize_eq_ok_iff {source text : String} : normalize source = .ok text ↔
    ∃ formula, Formula.ofText source = .ok formula ∧ formula.text = text := by
  unfold normalize
  cases Formula.ofText source <;> simp [Except.map]

theorem normalize_eq_error_iff {source : String} {violation : Violation} :
    normalize source = .error violation ↔ Formula.ofText source = .error violation := by
  unfold normalize
  cases Formula.ofText source <;> simp [Except.map]

end CellArithmetic
