import CellArithmetic.Proofs.Respacing
import CellArithmetic.Proofs.Viability

/-! What is wrong with the parentheses. If only the totals differ, nothing else is wrong, and the
parentheses that are missing make a formula of the text when they are written behind it. If a
parenthesis closes none, the text in front of it is a formula. -/
namespace CellArithmetic

open Grammar Text

/-- The parentheses, as tokens and as characters. -/
inductive Token.Parenthesis : Token → Char → Prop where
  | left : Parenthesis .leftParen '('
  | right : Parenthesis .rightParen ')'

namespace Token.Parenthesis

theorem outer (parenthesis : Parenthesis own c) :
    isBlank c = false ∧ isInner c = false ∧ c ≠ '+' ∧ c ≠ '-' := by
  cases parenthesis <;> decide

theorem count_blanks (parenthesis : Parenthesis own c) (blanks : Blanks w) : w.count c = 0 := by
  refine List.count_eq_zero.mpr fun member => ?_
  have blank := blanks c member
  rw [parenthesis.outer.1] at blank
  cases blank

theorem count_lexeme (parenthesis : Parenthesis own c) (spelled : Spelled token lexeme) :
    lexeme.count c = if token = own then 1 else 0 := by
  cases value : token.isValue with
  | true =>
    have other : token ≠ own := by
      rintro rfl
      cases parenthesis <;> cases value
    obtain ⟨_, outer, notPlus, notMinus⟩ := parenthesis.outer
    rw [if_neg other, List.count_eq_zero]
    intro member
    rcases spelled.inner_or_sign value c member with inner | plus | minus
    · rw [outer] at inner
      cases inner
    · exact notPlus plus
    · exact notMinus minus
  | false =>
    cases spelled with
    | number | cell => cases value
    | @operator op => cases parenthesis <;> cases op <;> rfl
    | leftParen | rightParen => cases parenthesis <;> rfl

/-- In a text of recognized tokens every parenthesis is a token. -/
theorem count_layout (parenthesis : Parenthesis own c) (layout : Layout parts s) :
    s.count c = (parts.map Prod.fst).count own := by
  induction layout with
  | done blanks => exact parenthesis.count_blanks blanks
  | token blanks spelled _ ih =>
    rw [List.count_append, List.count_append, parenthesis.count_blanks blanks,
      parenthesis.count_lexeme spelled, ih, List.map_cons, List.count_cons, Nat.zero_add, Nat.add_comm]
    simp only [beq_iff_eq]

end Token.Parenthesis

namespace Grammar

theorem State.step_count {state next : State} (taken : state.step token = some next) :
    state.depth + (if token = .leftParen then 1 else 0) =
      next.depth + (if token = .rightParen then 1 else 0) := by
  unfold State.step at taken
  split at taken
  · split at taken
    · cases taken
      rfl
    · cases taken
  all_goals cases taken
  all_goals rfl

/-- The depth tells how many more parentheses are opened than closed. -/
theorem State.run_count {state last : State} (read : state.run tokens = some last) :
    state.depth + tokens.count .leftParen = last.depth + tokens.count .rightParen := by
  induction tokens generalizing state with
  | nil =>
    cases read
    rfl
  | cons token rest ih =>
    obtain ⟨next, taken, read⟩ := Option.bind_eq_some_iff.mp read
    have first := State.step_count taken
    have more := ih read
    simp only [List.count_cons, beq_iff_eq]
    omega

/-- Where a closing parenthesis is expected and closes none, a formula is complete. -/
theorem State.eq_final_of_stuck {state : State} (admitted : state.expected.admits .rightParen = true)
    (stuck : state.step .rightParen = none) : state = .final := by
  rcases state with ⟨depth, _ | _⟩
  · cases admitted
  · cases depth with
    | zero => rfl
    | succ depth => cases stuck

end Grammar

theorem Occurrence.rule_of_symbol {here : Occurrence} (refused : here.symbol = .error violation) :
    violation.rule = .validToken := by
  rcases symbol_eq_error refused with ⟨_, rfl⟩ | ⟨_, _, _, rfl⟩
  · rfl
  · rfl

theorem Occurrence.rule_of_clash {here next : Occurrence} (clash : here.clash? next = some violation) :
    violation.rule = .openOrOperatorFollowing ∨ violation.rule = .valueOrCloseFollowing := by
  rcases clash?_eq_some clash with ⟨_, _, rfl⟩ | ⟨_, _, rfl⟩
  · exact .inr rfl
  · exact .inl rfl

namespace Formula

theorem Framed.admits_first (framed : Framed tokens) : ∀ first ∈ tokens.head?,
    first.token.isUnrecognized = false → Expected.operand.admits first.token = true := by
  intro first found recognized
  obtain ⟨⟨_, starts, front⟩, _⟩ := framed
  cases starts.symm.trans found
  have start : first.token.canStart = true := by
    by_contra other
    exact front (cannot_start_iff.mp (by simp [recognized, other]))
  exact start

/-- If the last token can be there and is read, then a formula may end behind it. -/
theorem Framed.expected_of_run (framed : Framed tokens)
    (run : State.run .start (tokens.map Occurrence.token) = some ⟨depth, expected⟩) :
    expected = .operator := by
  obtain ⟨_, last, ends, back⟩ := framed
  obtain ⟨before, taken⟩ := State.step_of_last run (by rw [List.getLast?_map, ends]; rfl)
  obtain ⟨symbol, canonical⟩ := State.canonical_of_step taken
  have ended : last.token.canEnd = true := by
    by_contra other
    exact back (cannot_end_iff.mp (by simp [canonical.recognized, other]))
  exact (State.admits_of_step taken).2.trans (if_pos ended)

theorem Draft.step_ne_unbalanced {draft : Draft} {here : Occurrence} {next : Option Occurrence}
    (opened closed : Nat) : draft.step here next ≠ .error (.unbalanced opened closed) := by
  intro refused
  rcases step_eq_error refused with unread | ⟨_, _, ⟨_, same⟩ | ⟨_, _, _, clash⟩⟩
  · cases Occurrence.rule_of_symbol unread
  · cases same
  · rcases Occurrence.rule_of_clash clash with rule | rule
    · cases rule
    · cases rule

/-- A step that meets a parenthesis that closes none stands behind a whole formula. -/
theorem Draft.state_of_unmatched {draft : Draft} {here : Occurrence} {next : Option Occurrence}
    (ordered : draft.Ordered)
    (admitted : here.token.isUnrecognized = false → expected.admits here.token = true)
    (refused : draft.step here next = .error (.unmatchedClose place)) :
    here.token = .rightParen ∧ here.position = place ∧ draft.state expected = .final := by
  rcases step_eq_error refused with
    unread | ⟨symbol, canonical, ⟨unordered, same⟩ | ⟨_, _, _, clash⟩⟩
  · cases Occurrence.rule_of_symbol unread
  · cases same
    have close := close_of_unordered ordered canonical unordered
    have expects := admitted canonical.recognized
    have stuck := step_state ordered expects canonical
    rw [if_neg unordered, close] at stuck
    rw [close] at expects
    exact ⟨close, rfl, State.eq_final_of_stuck expects stuck⟩
  · rcases Occurrence.rule_of_clash clash with rule | rule
    · cases rule
    · cases rule

/-- Tokens that are refused for their totals are read through, and only closing parentheses
are missing. -/
theorem run_of_unbalanced {opened closed : Nat}
    (refused : ofTokens tokens = .error (.unbalanced opened closed)) :
    State.run .start (tokens.map Occurrence.token) = some ⟨opened - closed, .operator⟩ ∧
      closed < opened ∧ opened = count .leftParen tokens ∧ closed = count .rightParen tokens := by
  cases refused_of_error refused with
  | broken _ _ foremost => cases foremost.1
  | unbalanced framed _ uneven =>
    rw [ofTokens_of_framed framed] at refused
    rcases Draft.read_cases .blank tokens with
      ⟨after, reads, _⟩ | ⟨_, _, _, _, _, _, _, stopped, ends⟩
    · have ordered : Draft.blank.Ordered := Nat.le_refl 0
      obtain ⟨expected, run, _⟩ := reads.run ordered (by rw [List.append_nil]; exact framed.admits_first)
      obtain rfl := framed.expected_of_run run
      have counted : 0 + count .leftParen tokens =
          after.opened - after.closed + count .rightParen tokens := State.run_count run
      have more : count .rightParen tokens < count .leftParen tokens := by omega
      refine ⟨?_, more, rfl, rfl⟩
      rw [Nat.sub_eq_of_eq_add (by rw [← Nat.zero_add (count _ _), counted])]
      exact run
    · rw [refused] at ends
      cases ends
      exact absurd stopped (Draft.step_ne_unbalanced _ _)

/-- In front of a parenthesis that closes none stands a formula. -/
theorem run_before_unmatched (refused : ofTokens tokens = .error (.unmatchedClose place)) :
    ∃ front here rest, tokens = front ++ here :: rest ∧ here.token = .rightParen ∧
      here.position = place ∧ State.run .start (front.map Occurrence.token) = some .final := by
  cases refused_of_error refused with
  | broken framed =>
    rw [ofTokens_of_framed framed] at refused
    rcases Draft.read_cases .blank tokens with
      ⟨after, _, ends⟩ | ⟨front, here, rest, after, violation, parts, reads, stopped, ends⟩
    · rw [refused, Draft.finish] at ends
      split at ends <;> cases ends
    · rw [refused] at ends
      cases ends
      have ordered : Draft.blank.Ordered := Nat.le_refl 0
      obtain ⟨expected, run, ordered, behind⟩ := reads.run ordered (parts ▸ framed.admits_first)
      obtain ⟨close, place, complete⟩ := Draft.state_of_unmatched ordered (behind here rfl) stopped
      exact ⟨front, here, rest, parts, close, place, complete ▸ run⟩

/-- In a formula as many parentheses are opened as closed. -/
theorem count_parentheses (read : ofText source = .ok formula) :
    source.toList.count '(' = source.toList.count ')' := by
  obtain ⟨layout, accepted, _⟩ := layout_of_ofText read
  rw [Token.Parenthesis.left.count_layout layout, Token.Parenthesis.right.count_layout layout]
  simpa [State.start, State.final] using State.run_count accepted

theorem layout_replicate_close (k : Nat) :
    Layout (List.replicate k (.rightParen, [')'])) (List.replicate k ')') := by
  induction k with
  | zero => exact .done blanks_nil
  | succ k ih => exact (Layout.single .rightParen).append ih

/-- Exactly the missing parentheses make a formula of a text in which only they are missing. -/
theorem completed_iff (layout : Layout parts source.toList)
    (read : State.run .start (parts.map Prod.fst) = some ⟨missing, .operator⟩) :
    (∃ formula, ofText (source ++ String.ofList (List.replicate k ')')) = .ok formula) ↔ k = missing := by
  constructor
  · rintro ⟨formula, completed⟩
    have balanced := count_parentheses completed
    have counted : 0 + source.toList.count '(' = missing + source.toList.count ')' := by
      rw [Token.Parenthesis.left.count_layout layout, Token.Parenthesis.right.count_layout layout]
      exact State.run_count read
    simp only [String.toList_append, String.toList_ofList, List.count_append, List.count_replicate,
      beq_iff_eq, Char.reduceEq, if_false, if_true] at balanced
    omega
  · rintro rfl
    have whole := exists_ofText_of_run (layout.append (layout_replicate_close k)) (by
      rw [List.map_append, State.run_append, read, Option.bind_some, List.map_replicate]
      exact State.run_missing_parentheses k)
    rwa [String.ofList_append, String.ofList_toList] at whole

/-- Where the parentheses are at fault, nothing else is. If the totals differ, they are those of
the text, and just the missing parentheses complete it; in front of a parenthesis that closes
none stands a formula. -/
theorem parentheses_are_diagnosed (source : String) :
    (∀ opened closed, ofText source = .error (.unbalanced opened closed) →
      closed < opened ∧ opened = source.toList.count '(' ∧ closed = source.toList.count ')' ∧
      ∀ k, (∃ formula, ofText (source ++ String.ofList (List.replicate k ')')) = .ok formula) ↔
        k = opened - closed) ∧
    ∀ place, ofText source = .error (.unmatchedClose place) →
      source.toList[place.offset]? = some ')' ∧
      ∃ formula, ofText (String.ofList (source.toList.take place.offset)) = .ok formula := by
  constructor
  · intro opened closed refused
    obtain ⟨run, more, rfl, rfl⟩ := run_of_unbalanced refused
    rw [← Cursor.map_fst_pieces] at run
    have layout : Layout (Cursor.pieces (.ofText source)) source.toList := Cursor.layout_of_run run
    have opened := Token.Parenthesis.left.count_layout layout
    have closed := Token.Parenthesis.right.count_layout layout
    rw [Cursor.map_fst_pieces] at opened closed
    exact ⟨more, opened.symm, closed.symm, fun k => completed_iff layout run⟩
  · intro place refused
    obtain ⟨front, here, rest, parts, close, rfl, run⟩ := run_before_unmatched refused
    have recognized : ∀ other ∈ front, other.token.isUnrecognized = false := fun other member =>
      State.recognized_of_run run _ (List.mem_map_of_mem member)
    have trace := ScanTrace.of_scan source
    rw [parts] at trace
    obtain ⟨u, v, whole, layout, back⟩ := trace.layout_front recognized
    cases back with
    | @token w c s _ _ blanks _ _ =>
      obtain ⟨rfl, _⟩ := Token.cut_of_rightParen close
      have before : (((Position.start.advance u).advance w).offset) = (u ++ w).length := by
        simp [Position.offset_advance, Position.start]
      rw [whole, ← List.append_assoc, before]
      refine ⟨by simp, ?_⟩
      rw [List.take_left]
      exact exists_ofText_of_run (layout.append (.done blanks)) (by simpa [Function.comp_def] using run)

theorem parentheses_are_diagnosed_missing :
    ofText "((x1 + (2" = .error (.unbalanced 3 0) ∧
    (0 < 3 ∧ 3 = "((x1 + (2".toList.count '(' ∧ 0 = "((x1 + (2".toList.count ')' ∧
      ∀ k, (∃ formula, ofText ("((x1 + (2" ++ String.ofList (List.replicate k ')')) = .ok formula) ↔
        k = 3 - 0) ∧
    ofText "(1.\n))2" = .error (.unmatchedClose ⟨2, 2, 5⟩) ∧
    "(1.\n))2".toList[5]? = some ')' ∧
    ∃ formula, ofText (String.ofList ("(1.\n))2".toList.take 5)) = .ok formula := by
  have missing : ofText "((x1 + (2" = .error (.unbalanced 3 0) :=
    normalize_eq_error_iff.mp (by decide +kernel)
  have stray : ofText "(1.\n))2" = .error (.unmatchedClose ⟨2, 2, 5⟩) :=
    normalize_eq_error_iff.mp (by decide +kernel)
  exact ⟨missing, (parentheses_are_diagnosed "((x1 + (2").1 3 0 missing,
    stray, (parentheses_are_diagnosed "(1.\n))2").2 _ stray⟩

end Formula

end CellArithmetic
