import CellArithmetic.Formula
import CellArithmetic.Proofs.Grammar
import Mathlib.Data.List.Forall2

/-! Which token sequences are formulas, and what is read off them. The checks of first,
last and neighbouring tokens and the two counts of parentheses together take a sequence
exactly when the grammar does. -/
namespace CellArithmetic

open Grammar

/-- The canonical symbol of a token, beside the function that may refuse one. -/
inductive Token.Canonical : Token → Symbol → Prop where
  | number (finite : value.isFinite = true) : Canonical (.number value) (.number value.text)
  | cell : Canonical (.cell name) (.cell (CellName.canonical name))
  | operator : Canonical (.operator op) (.operator op)
  | leftParen : Canonical .leftParen .leftParen
  | rightParen : Canonical .rightParen .rightParen

theorem Token.Canonical.recognized (canonical : Token.Canonical token symbol) :
    token.isUnrecognized = false := by
  cases canonical <;> rfl

theorem Token.Canonical.unique : Relator.RightUnique Token.Canonical := by
  intro token first second one two
  cases one <;> cases two <;> rfl

theorem Occurrence.symbol_eq_ok_iff {here : Occurrence} {sign : Symbol} :
    here.symbol = .ok sign ↔ here.token.Canonical sign := by
  rcases here with ⟨token, lexeme, place⟩
  constructor
  · intro found
    cases token with
    | number value =>
      simp only [symbol] at found
      split at found
      · cases found; exact .number ‹_›
      · cases found
    | cell name => cases found; exact .cell
    | operator op => cases found; exact .operator
    | leftParen => cases found; exact .leftParen
    | rightParen => cases found; exact .rightParen
    | unrecognized text => cases found
  · intro canonical
    cases canonical with
    | number finite => simp [symbol, finite]
    | cell | operator | leftParen | rightParen => rfl

namespace Grammar

/-- What a token has to be where an operand, or else an operator, is expected. -/
def Expected.admits : Expected → Token → Bool
  | .operand, token => token.canStart
  | .operator, token => token.isOperator || token == .rightParen

/-- What is expected behind a token. -/
def Expected.behind (token : Token) : Expected := if token.canEnd then .operator else .operand

theorem State.admits_of_step {state next : State} (taken : state.step token = some next) :
    state.expected.admits token = true ∧ next.expected = .behind token := by
  unfold State.step at taken
  split at taken
  · split at taken
    · cases taken; exact ⟨rfl, rfl⟩
    · cases taken
  all_goals cases taken
  all_goals exact ⟨rfl, rfl⟩

theorem State.admits_head {state last : State} (read : state.run tokens = some last) :
    ∀ token ∈ tokens.head?, state.expected.admits token = true := by
  intro token found
  obtain ⟨rest, rfl⟩ := List.head?_eq_some_iff.mp found
  obtain ⟨_, taken, _⟩ := Option.bind_eq_some_iff.mp read
  exact (State.admits_of_step taken).1

theorem State.canonical_of_step {state next : State} (taken : state.step token = some next) :
    ∃ symbol, token.Canonical symbol := by
  unfold State.step at taken
  split at taken
  · split at taken
    · exact ⟨_, .number ‹_›⟩
    · cases taken
  · exact ⟨_, .cell⟩
  · exact ⟨_, .leftParen⟩
  · exact ⟨_, .operator⟩
  · exact ⟨_, .rightParen⟩
  · cases taken

theorem State.canonical_of_run {state last : State} (read : state.run tokens = some last) :
    ∃ symbols, List.Forall₂ Token.Canonical tokens symbols := by
  induction tokens generalizing state with
  | nil => exact ⟨[], .nil⟩
  | cons token rest ih =>
    obtain ⟨next, taken, read⟩ := Option.bind_eq_some_iff.mp read
    obtain ⟨symbol, canonical⟩ := State.canonical_of_step taken
    obtain ⟨symbols, spelled⟩ := ih read
    exact ⟨symbol :: symbols, .cons canonical spelled⟩

theorem State.recognized_of_run {state last : State} (read : state.run tokens = some last) :
    ∀ token ∈ tokens, token.isUnrecognized = false := by
  induction tokens generalizing state with
  | nil => intro token member; cases member
  | cons first rest ih =>
    intro token member
    obtain ⟨next, taken, read⟩ := Option.bind_eq_some_iff.mp read
    rcases List.mem_cons.mp member with rfl | member
    · obtain ⟨symbol, canonical⟩ := State.canonical_of_step taken
      exact canonical.recognized
    · exact ih read token member

theorem State.step_of_last {state last : State} (read : state.run tokens = some last)
    (found : tokens.getLast? = some token) : ∃ before : State, before.step token = some last := by
  obtain ⟨front, rfl⟩ := List.getLast?_eq_some_iff.mp found
  rw [State.run_append] at read
  obtain ⟨before, _, read⟩ := Option.bind_eq_some_iff.mp read
  obtain ⟨_, taken, same⟩ := Option.bind_eq_some_iff.mp read
  cases same
  exact ⟨before, taken⟩

end Grammar

/-- Two tokens clash exactly when the second is not what is expected behind the first. -/
theorem Occurrence.clash?_eq_none_iff {here next : Occurrence} :
    here.clash? next = none ↔ (Expected.behind here.token).admits next.token = true := by
  unfold clash? Expected.behind
  split <;> simp only [Expected.admits] <;> split <;> simp_all

namespace Formula

def noteCell (cells : Names) : Symbol → Names
  | .cell name => cells.insert name
  | _ => cells

/-- The formula that is written as the symbols. -/
def ofSymbols (symbols : List Symbol) : Formula where
  symbols := symbols
  text := String.join (symbols.map Symbol.text)
  cells := symbols.foldl noteCell ∅

namespace Draft

def written (draft : Draft) : Formula := ⟨draft.symbols.toList, draft.text, draft.cells⟩

def add (draft : Draft) (symbol : Symbol) : Draft := (draft.note symbol).write symbol

theorem foldl_add (draft : Draft) (symbols : List Symbol) :
    (symbols.foldl add draft).written = {
      symbols := draft.symbols.toList ++ symbols
      text := draft.text ++ String.join (symbols.map Symbol.text)
      cells := symbols.foldl noteCell draft.cells } := by
  induction symbols generalizing draft with
  | nil => simp [written]
  | cons symbol symbols ih =>
    rw [List.foldl_cons, ih]
    cases symbol <;> simp [add, note, write, noteCell, String.append_assoc]

/-- No more parentheses are closed than opened. -/
def Ordered (draft : Draft) : Prop := draft.closed ≤ draft.opened

instance (draft : Draft) : Decidable draft.Ordered := Nat.decLe _ _

def state (draft : Draft) (expected : Expected) : State := ⟨draft.opened - draft.closed, expected⟩

theorem step_eq_ok_iff {draft after : Draft} {here : Occurrence} {next : Option Occurrence} :
    draft.step here next = .ok after ↔ ∃ symbol, here.token.Canonical symbol ∧
      after = draft.add symbol ∧ after.Ordered ∧
      ∀ follower ∈ next, (Expected.behind here.token).admits follower.token = true := by
  have fits : next.bind here.clash? = none ↔
      ∀ follower ∈ next, (Expected.behind here.token).admits follower.token = true := by
    simp only [Option.bind_eq_none_iff, Option.mem_def, Occurrence.clash?_eq_none_iff]
  unfold step
  cases found : here.symbol with
  | error violation =>
    have none (symbol) : ¬here.token.Canonical symbol := by
      simp [← Occurrence.symbol_eq_ok_iff, found]
    simp [none]
  | ok symbol =>
    have unique (other) : here.token.Canonical other ↔ symbol = other := by
      simp [← Occurrence.symbol_eq_ok_iff, found]
    simp only [unique, exists_eq_left']
    have counted : (draft.add symbol).Ordered ↔
        ¬(draft.note symbol).opened < (draft.note symbol).closed :=
      Nat.not_lt.symm
    split
    · rename_i crossed
      simp only [reduceCtorEq, false_iff, not_and]
      rintro rfl ordered
      exact absurd crossed (counted.mp ordered)
    · rename_i ordered
      split
      · rename_i violation clash
        simp only [reduceCtorEq, false_iff, not_and, ← fits, clash, not_false_eq_true, implies_true]
      · rename_i fitting
        simp only [Except.ok.injEq, ← fits, fitting, and_true]
        constructor
        · rintro rfl
          exact ⟨rfl, counted.mpr ordered⟩
        · rintro ⟨rfl, _⟩
          rfl

/-- The grammar can take a token exactly where the two counts stay in order with it. -/
theorem step_state {draft : Draft} (ordered : draft.Ordered)
    (admitted : expected.admits token = true) (canonical : token.Canonical symbol) :
    (draft.state expected).step token =
      if (draft.add symbol).Ordered then some ((draft.add symbol).state (.behind token)) else none := by
  cases canonical with
  | @number value finite =>
    have kept : (draft.add (.number value.text)).Ordered := ordered
    cases expected with
    | operand => rw [if_pos kept]; exact if_pos finite
    | operator => cases admitted
  | @cell name =>
    have kept : (draft.add (.cell (CellName.canonical name))).Ordered := ordered
    cases expected with
    | operand => rw [if_pos kept]; rfl
    | operator => cases admitted
  | @operator op =>
    have kept : (draft.add (.operator op)).Ordered := ordered
    cases expected with
    | operand => cases admitted
    | operator => rw [if_pos kept]; rfl
  | leftParen =>
    have kept : (draft.add .leftParen).Ordered := Nat.le_succ_of_le ordered
    have deeper : draft.opened + 1 - draft.closed = draft.opened - draft.closed + 1 :=
      Nat.succ_sub ordered
    cases expected with
    | operand =>
      rw [if_pos kept]
      exact congrArg (fun depth => some (State.mk depth .operand)) deeper.symm
    | operator => cases admitted
  | rightParen =>
    cases expected with
    | operand => cases admitted
    | operator =>
      -- The step needs an open parenthesis, and the counts stay in order only with one.
      change State.step ⟨draft.opened - draft.closed, .operator⟩ .rightParen =
        if draft.closed + 1 ≤ draft.opened then
          some ⟨draft.opened - (draft.closed + 1), .operator⟩ else none
      rw [Nat.sub_add_eq]
      cases depth : draft.opened - draft.closed with
      | zero => rw [if_neg (by omega)]; rfl
      | succ depth => rw [if_pos (by omega)]; rfl

/-- Reading the tokens in front of `rest` leads from one draft to another. -/
inductive Reads : Draft → List Occurrence → List Occurrence → Draft → Prop where
  | done : Reads draft [] rest draft
  | step (taken : draft.step here (front ++ rest).head? = .ok next) (more : Reads next front rest after) :
      Reads draft (here :: front) rest after

/-- Reading goes through to the end, or it is refused at a token. -/
theorem read_cases (draft : Draft) (tokens : List Occurrence) :
    (∃ after, Reads draft tokens [] after ∧ draft.read tokens = after.finish) ∨
    ∃ front here rest after violation, tokens = front ++ here :: rest ∧
      Reads draft front (here :: rest) after ∧ after.step here rest.head? = .error violation ∧
      draft.read tokens = .error violation := by
  induction tokens generalizing draft with
  | nil => exact .inl ⟨draft, .done, rfl⟩
  | cons here rest ih =>
    rw [Draft.read]
    cases stepped : draft.step here rest.head? with
    | error violation => exact .inr ⟨[], here, rest, draft, violation, rfl, .done, stepped, rfl⟩
    | ok next =>
      rcases ih next with
        ⟨after, reads, ends⟩ | ⟨front, stop, others, after, violation, rfl, reads, refused, ends⟩
      · exact .inl ⟨after, .step (by rw [List.append_nil]; exact stepped) reads, ends⟩
      · exact .inr ⟨here :: front, stop, others, after, violation, rfl, .step stepped reads,
          refused, ends⟩

theorem Reads.symbols {draft after : Draft} (reads : Reads draft front rest after) :
    ∃ symbols, List.Forall₂ Token.Canonical (front.map Occurrence.token) symbols ∧
      after = symbols.foldl add draft := by
  induction reads with
  | done => exact ⟨[], .nil, rfl⟩
  | step taken _ ih =>
    obtain ⟨symbol, canonical, rfl, _, _⟩ := step_eq_ok_iff.mp taken
    obtain ⟨symbols, spelled, rfl⟩ := ih
    exact ⟨symbol :: symbols, .cons canonical spelled, rfl⟩

/-- The grammar goes along, and what stands behind is what it expects or unrecognized. -/
theorem Reads.run {draft after : Draft} (reads : Reads draft front rest after)
    (ordered : draft.Ordered)
    (admitted : ∀ first ∈ (front ++ rest).head?, first.token.isUnrecognized = false →
      expected.admits first.token = true) :
    ∃ last, (draft.state expected).run (front.map Occurrence.token) = some (after.state last) ∧
      after.Ordered ∧ ∀ follower ∈ rest.head?, follower.token.isUnrecognized = false →
        last.admits follower.token = true := by
  induction reads generalizing expected with
  | done => exact ⟨expected, rfl, ordered, admitted⟩
  | step taken more ih =>
    rename_i here
    obtain ⟨symbol, canonical, rfl, kept, follows⟩ := step_eq_ok_iff.mp taken
    have stepped := step_state ordered (admitted here rfl canonical.recognized) canonical
    rw [if_pos kept] at stepped
    obtain ⟨last, run, behind⟩ := ih kept fun follower found _ => follows follower found
    exact ⟨last, by rw [List.map_cons, State.run_cons, stepped, Option.bind_some, run], behind⟩

theorem run_of_read {draft : Draft} (ordered : draft.Ordered)
    (admitted : ∀ first ∈ tokens.head?, first.token.isUnrecognized = false →
      expected.admits first.token = true)
    (read : draft.read tokens = .ok formula) :
    (∃ last, (draft.state expected).run (tokens.map Occurrence.token) = some ⟨0, last⟩) ∧
      ∃ symbols, List.Forall₂ Token.Canonical (tokens.map Occurrence.token) symbols ∧
        formula = (symbols.foldl add draft).written := by
  rcases read_cases draft tokens with ⟨after, reads, ends⟩ | ⟨_, _, _, _, _, _, _, _, ends⟩
  · obtain ⟨symbols, spelled, rfl⟩ := reads.symbols
    obtain ⟨last, run, _⟩ := reads.run ordered (by rw [List.append_nil]; exact admitted)
    rw [read, finish] at ends
    split at ends
    · rename_i balanced
      cases ends
      exact ⟨⟨last, by rw [run, state, balanced, Nat.sub_self]⟩, symbols, spelled, rfl⟩
    · cases ends
  · rw [read] at ends
    cases ends

theorem read_of_run {draft : Draft} (ordered : draft.Ordered)
    (run : (draft.state expected).run (tokens.map Occurrence.token) = some ⟨0, last⟩) :
    ∃ formula, draft.read tokens = .ok formula := by
  induction tokens generalizing draft expected with
  | nil =>
    have balanced : draft.opened = draft.closed := by
      have depth := congrArg State.depth (Option.some.inj run)
      simp only [state] at depth
      exact Nat.le_antisymm (Nat.le_of_sub_eq_zero depth) ordered
    exact ⟨draft.written, by simp [Draft.read, finish, balanced, written]⟩
  | cons here rest ih =>
    obtain ⟨next, taken, run⟩ := Option.bind_eq_some_iff.mp run
    obtain ⟨symbol, canonical⟩ := State.canonical_of_step taken
    have admitted : expected.admits here.token = true := (State.admits_of_step taken).1
    have stepped := step_state ordered admitted canonical
    rw [taken] at stepped
    split at stepped
    · rename_i kept
      cases stepped
      obtain ⟨formula, read⟩ := ih kept run
      have follows : ∀ follower ∈ rest.head?,
          (Expected.behind here.token).admits follower.token = true := by
        intro follower found
        exact State.admits_head run follower.token (by rw [List.head?_map, found]; rfl)
      have step := step_eq_ok_iff.mpr ⟨symbol, canonical, rfl, kept, follows⟩
      exact ⟨formula, by simp only [Draft.read, step, read]⟩
    · cases stepped

end Draft

private theorem read_of_ofTokens (read : ofTokens tokens = .ok formula) :
    ∃ first last, tokens.head? = some first ∧ tokens.getLast? = some last ∧
      (first.token.isUnrecognized = true ∨ first.token.canStart = true) ∧
      (last.token.isUnrecognized = true ∨ last.token.canEnd = true) ∧
      Draft.blank.read tokens = .ok formula := by
  unfold ofTokens at read
  split at read
  · rename_i first last started ended
    split at read
    · cases read
    · split at read
      · cases read
      · rename_i front back
        exact ⟨first, last, started, ended, by simpa [or_iff_not_imp_left] using front,
          by simpa [or_iff_not_imp_left] using back, read⟩
  · cases read

/-- A sequence of tokens is read as a formula exactly when the grammar takes it, and the
formula is then the one that the canonical symbols of the tokens write. -/
theorem ofTokens_eq_ok_iff : ofTokens tokens = .ok formula ↔
    State.run .start (tokens.map Occurrence.token) = some .final ∧
      ∃ symbols, List.Forall₂ Token.Canonical (tokens.map Occurrence.token) symbols ∧
        formula = ofSymbols symbols := by
  have blank (symbols : List Symbol) :
      (symbols.foldl Draft.add .blank).written = ofSymbols symbols := by
    rw [Draft.foldl_add]
    simp [Draft.blank, ofSymbols]
  have ordered : Draft.blank.Ordered := Nat.le_refl 0
  constructor
  · intro read
    obtain ⟨first, last, started, ended, front, back, read⟩ := read_of_ofTokens read
    have admitted : ∀ here ∈ tokens.head?, here.token.isUnrecognized = false →
        Expected.operand.admits here.token = true := by
      intro here found recognized
      cases started.symm.trans found
      exact front.resolve_left (by simp [recognized])
    obtain ⟨⟨expected, run⟩, symbols, spelled, rfl⟩ := Draft.run_of_read ordered admitted read
    obtain ⟨before, taken⟩ := State.step_of_last run (by rw [List.getLast?_map, ended]; rfl)
    obtain ⟨symbol, canonical⟩ := State.canonical_of_step taken
    have complete : expected = .operator :=
      (State.admits_of_step taken).2.trans
        (if_pos (back.resolve_left (by simp [canonical.recognized])))
    subst complete
    exact ⟨run, symbols, spelled, blank symbols⟩
  · rintro ⟨run, symbols, spelled, rfl⟩
    have admitted : ∀ here ∈ tokens.head?, Expected.operand.admits here.token = true :=
      fun here found => State.admits_head run here.token (by rw [List.head?_map, found]; rfl)
    obtain ⟨formula, read⟩ := Draft.read_of_run ordered run
    obtain ⟨_, others, same, rfl⟩ :=
      Draft.run_of_read ordered (fun here found _ => admitted here found) read
    obtain rfl := List.right_unique_forall₂' Token.Canonical.unique spelled same
    rw [← blank, ← read]
    cases started : tokens.head? with
    | none =>
      cases List.head?_eq_none_iff.mp started
      cases run
    | some first =>
      obtain ⟨last, ended⟩ : ∃ last, tokens.getLast? = some last := by
        obtain ⟨rest, rfl⟩ := List.head?_eq_some_iff.mp started
        simp [List.getLast?_cons]
      obtain ⟨before, taken⟩ := State.step_of_last run (by rw [List.getLast?_map, ended]; rfl)
      have back : last.token.canEnd = true := by
        by_contra open_
        have behind : Expected.operator = .operand :=
          (State.admits_of_step taken).2.trans (if_neg open_)
        cases behind
      have front : first.token.canStart = true := admitted first started
      simp [ofTokens, started, ended, front, back]

theorem exists_ofTokens_iff_run : (∃ formula, ofTokens tokens = .ok formula) ↔
    State.run .start (tokens.map Occurrence.token) = some .final := by
  constructor
  · rintro ⟨formula, read⟩
    exact (ofTokens_eq_ok_iff.mp read).1
  · intro run
    obtain ⟨symbols, spelled⟩ := State.canonical_of_run run
    exact ⟨ofSymbols symbols, ofTokens_eq_ok_iff.mpr ⟨run, symbols, spelled, rfl⟩⟩

/-- The local rules take exactly the sequences that the grammar derives and that hold no
infinite number, whatever the lexemes and the places are. -/
theorem ofTokens_succeeds_iff_derives : (∃ formula, ofTokens tokens = .ok formula) ↔
    Derives .expression (tokens.map Occurrence.token) ∧
      FiniteNumbers (tokens.map Occurrence.token) :=
  exists_ofTokens_iff_run.trans run_eq_final_iff

end Formula

end CellArithmetic
