import CellArithmetic.Proofs.Acceptance

/-! Which violation a sequence of tokens is refused for. Every way to break a rule is
stated of the whole sequence and an index, with the parentheses counted from the front;
the rules on the two ends come first, then the lowest index, and at one index the rule
with the lowest number. -/
namespace CellArithmetic

open Grammar

namespace Occurrence

variable {here next : Occurrence}

theorem symbol_eq_error (refused : here.symbol = .error violation) :
    here.token.isUnrecognized = true ∧ violation = .invalidToken here.lexeme here.position ∨
    ∃ value, here.token = .number value ∧ value.isFinite = false ∧
      violation = .outOfRange here.lexeme here.position := by
  unfold symbol at refused
  split at refused
  · rename_i number
    split at refused
    · cases refused
    · rename_i infinite
      cases refused
      exact .inr ⟨_, number, Bool.eq_false_iff.mpr infinite, rfl⟩
  · cases refused
  · cases refused
  · cases refused
  · cases refused
  · rename_i unknown
    cases refused
    exact .inl ⟨by rw [unknown]; rfl, rfl⟩

theorem clash?_eq_some (clash : here.clash? next = some violation) :
    (here.token.canEnd = true ∧ ¬(next.token.isOperator = true ∨ next.token = .rightParen) ∧
      violation = .afterValueOrClose here.lexeme next.lexeme next.position) ∨
    here.token.canEnd = false ∧ ¬(next.token.isValue = true ∨ next.token = .leftParen) ∧
      violation = .afterOpenOrOperator here.lexeme next.lexeme next.position := by
  unfold clash? at clash
  split at clash
  · rename_i ended
    split at clash
    · cases clash
    · rename_i misfit
      cases clash
      rw [Bool.or_eq_true, beq_iff_eq] at misfit
      exact .inl ⟨ended, misfit, rfl⟩
  · rename_i unended
    split at clash
    · cases clash
    · rename_i misfit
      cases clash
      rw [Token.canStart, Bool.or_eq_true, beq_iff_eq] at misfit
      exact .inr ⟨Bool.eq_false_iff.mpr unended, misfit, rfl⟩

end Occurrence

namespace Token

theorem canEnd_iff {token : Token} :
    token.canEnd = true ↔ token.isValue = true ∨ token = .rightParen := by
  rw [canEnd, Bool.or_eq_true, beq_iff_eq]

/-- A token with a symbol that cannot end a formula opens a part of it or is an operator. -/
theorem Canonical.opens {token : Token} (canonical : token.Canonical symbol)
    (unended : token.canEnd = false) : token = .leftParen ∨ token.isOperator = true := by
  cases canonical with
  | leftParen => exact .inl rfl
  | operator => exact .inr rfl
  | number | cell | rightParen => cases unended

theorem canEnd_of_opens {token : Token} (opens : token = .leftParen ∨ token.isOperator = true) :
    token.canEnd = false := by
  rcases opens with rfl | op
  · rfl
  · cases token with
    | operator => rfl
    | number | cell | leftParen | rightParen | unrecognized => cases op

end Token

namespace Formula

/-- How many of the tokens are the given one. -/
def count (token : Token) (tokens : List Occurrence) : Nat :=
  (tokens.map Occurrence.token).count token

/-- Up to the index and with it, more parentheses are closed than opened. -/
def Crossed (tokens : List Occurrence) (index : Nat) : Prop :=
  count .leftParen (tokens.take (index + 1)) < count .rightParen (tokens.take (index + 1))

/-- What breaks a rule at the token with the given index. -/
inductive Breach (tokens : List Occurrence) (index : Nat) : Violation → Prop where
  | unrecognized (found : tokens[index]? = some here) (unknown : here.token.isUnrecognized = true) :
      Breach tokens index (.invalidToken here.lexeme here.position)
  | infinite (found : tokens[index]? = some here) (number : here.token = .number value)
      (infinite : value.isFinite = false) :
      Breach tokens index (.outOfRange here.lexeme here.position)
  | unmatched (found : tokens[index]? = some here) (close : here.token = .rightParen)
      (crossed : Crossed tokens index) :
      Breach tokens index (.unmatchedClose here.position)
  | afterOpenOrOperator (found : tokens[index]? = some here)
      (before : here.token = .leftParen ∨ here.token.isOperator = true)
      (follows : tokens[index + 1]? = some next)
      (misfit : ¬(next.token.isValue = true ∨ next.token = .leftParen)) :
      Breach tokens index (.afterOpenOrOperator here.lexeme next.lexeme next.position)
  | afterValueOrClose (found : tokens[index]? = some here)
      (before : here.token.isValue = true ∨ here.token = .rightParen)
      (follows : tokens[index + 1]? = some next)
      (misfit : ¬(next.token.isOperator = true ∨ next.token = .rightParen)) :
      Breach tokens index (.afterValueOrClose here.lexeme next.lexeme next.position)

/-- Of the rules that are broken at the index, the violation breaks the one with the
lowest number. -/
def Foremost (tokens : List Occurrence) (index : Nat) (violation : Violation) : Prop :=
  Breach tokens index violation ∧
    ∀ other, Breach tokens index other → violation.rule.number ≤ other.rule.number

/-- No rule is broken in front of the index. -/
def CleanBefore (tokens : List Occurrence) (index : Nat) : Prop :=
  ∀ earlier < index, ∀ violation, ¬Breach tokens earlier violation

/-- There are tokens, and neither the first nor the last of them is one that cannot
stand there. -/
def Framed (tokens : List Occurrence) : Prop :=
  (∃ first, tokens.head? = some first ∧
      ¬(first.token.isOperator = true ∨ first.token = .rightParen)) ∧
    ∃ last, tokens.getLast? = some last ∧
      ¬(last.token.isOperator = true ∨ last.token = .leftParen)

/-- The violation that comes first in the order of the rules and the tokens. -/
inductive Refused (tokens : List Occurrence) : Violation → Prop where
  | empty (nothing : tokens = []) : Refused tokens .empty
  | invalidFirst (starts : tokens.head? = some first)
      (wrong : first.token.isOperator = true ∨ first.token = .rightParen) :
      Refused tokens (.invalidFirst first.lexeme first.position)
  | invalidLast (starts : tokens.head? = some first)
      (right : ¬(first.token.isOperator = true ∨ first.token = .rightParen))
      (ends : tokens.getLast? = some last)
      (wrong : last.token.isOperator = true ∨ last.token = .leftParen) :
      Refused tokens (.invalidLast last.lexeme last.position)
  | broken (framed : Framed tokens) (clean : CleanBefore tokens index)
      (foremost : Foremost tokens index violation) : Refused tokens violation
  | unbalanced (framed : Framed tokens)
      (clean : ∀ index violation, ¬Breach tokens index violation)
      (uneven : count .leftParen tokens ≠ count .rightParen tokens) :
      Refused tokens (.unbalanced (count .leftParen tokens) (count .rightParen tokens))

theorem count_take_succ {tokens : List Occurrence} (found : tokens[index]? = some here) :
    count token (tokens.take (index + 1)) =
      count token (tokens.take index) + if here.token = token then 1 else 0 := by
  rw [count, List.take_add_one, found, Option.toList_some, List.map_append, List.count_append]
  simp [count, List.count_singleton]

theorem Breach.inside (breach : Breach tokens index violation) : index < tokens.length := by
  cases breach with
  | unrecognized found | infinite found | unmatched found | afterOpenOrOperator found
  | afterValueOrClose found => exact (List.getElem?_eq_some_iff.mp found).1

/-- Why a breach breaks its rule, as reading sees it: the token has no symbol, a parenthesis
closes none, or the next token is not what is expected. -/
theorem Breach.reason {here : Occurrence} (breach : Breach tokens index violation)
    (found : tokens[index]? = some here) :
    (violation.rule = .validToken ∧ ∀ symbol, ¬here.token.Canonical symbol) ∨
    (violation.rule = .closingParenthesis ∧ Crossed tokens index) ∨
    ((violation.rule = .openOrOperatorFollowing ∧ here.token.canEnd = false ∨
        violation.rule = .valueOrCloseFollowing) ∧
      ∃ next, tokens[index + 1]? = some next ∧
        (Expected.behind here.token).admits next.token ≠ true) := by
  cases breach with
  | unrecognized same unknown =>
    cases found.symm.trans same
    refine .inl ⟨rfl, fun symbol canonical => ?_⟩
    simp [canonical.recognized] at unknown
  | infinite same number infinite =>
    cases found.symm.trans same
    refine .inl ⟨rfl, fun symbol canonical => ?_⟩
    rw [number] at canonical
    cases canonical with
    | number finite => simp [finite] at infinite
  | unmatched same close crossed => exact .inr (.inl ⟨rfl, crossed⟩)
  | @afterOpenOrOperator _ next same before follows misfit =>
    cases found.symm.trans same
    have unended : here.token.canEnd = false := Token.canEnd_of_opens before
    refine .inr (.inr ⟨.inl ⟨rfl, unended⟩, next, follows, ?_⟩)
    simpa [Expected.behind, unended, Expected.admits, Token.canStart] using misfit
  | @afterValueOrClose _ next same before follows misfit =>
    cases found.symm.trans same
    have ended : here.token.canEnd = true := Token.canEnd_iff.mpr before
    refine .inr (.inr ⟨.inr rfl, next, follows, ?_⟩)
    simpa [Expected.behind, ended, Expected.admits] using misfit

/-- A token without a symbol is reported before anything else at its index. -/
theorem foremost_of_symbol {here : Occurrence} (found : tokens[index]? = some here)
    (refused : here.symbol = .error violation) : Foremost tokens index violation := by
  have reported : Breach tokens index violation ∧ violation.rule = .validToken := by
    rcases Occurrence.symbol_eq_error refused with ⟨unknown, rfl⟩ | ⟨value, number, infinite, rfl⟩
    · exact ⟨.unrecognized found unknown, rfl⟩
    · exact ⟨.infinite found number infinite, rfl⟩
  refine ⟨reported.1, fun other broken => ?_⟩
  rcases broken.reason found with ⟨same, _⟩ | ⟨same, _⟩ | ⟨⟨same, _⟩ | same, _⟩
  all_goals simp [reported.2, same, Rule.number]

/-- A parenthesis that closes none is reported before what stands behind it. -/
theorem foremost_of_close {here : Occurrence} (found : tokens[index]? = some here)
    (close : here.token = .rightParen) (crossed : Crossed tokens index) :
    Foremost tokens index (.unmatchedClose here.position) := by
  have own : (Violation.unmatchedClose here.position).rule = .closingParenthesis := rfl
  refine ⟨.unmatched found close crossed, fun other broken => ?_⟩
  rcases broken.reason found with ⟨_, none⟩ | ⟨same, _⟩ | ⟨⟨same, _⟩ | same, _⟩
  · exact absurd (close ▸ .rightParen) (none .rightParen)
  all_goals simp [own, same, Rule.number]

/-- What stands behind a token is reported where the token itself is in order. -/
theorem foremost_of_clash {here next : Occurrence} (found : tokens[index]? = some here)
    (canonical : here.token.Canonical symbol) (kept : ¬Crossed tokens index)
    (follows : tokens[index + 1]? = some next) (clash : here.clash? next = some violation) :
    Foremost tokens index violation := by
  have reported : Breach tokens index violation ∧ (violation.rule = .openOrOperatorFollowing ∨
      violation.rule = .valueOrCloseFollowing ∧ here.token.canEnd = true) := by
    rcases Occurrence.clash?_eq_some clash with ⟨ended, misfit, rfl⟩ | ⟨unended, misfit, rfl⟩
    · have before := Token.canEnd_iff.mp ended
      exact ⟨.afterValueOrClose found before follows misfit, .inr ⟨rfl, ended⟩⟩
    · have before := canonical.opens unended
      exact ⟨.afterOpenOrOperator found before follows misfit, .inl rfl⟩
  refine ⟨reported.1, fun other broken => ?_⟩
  rcases broken.reason found with ⟨_, none⟩ | ⟨_, crossed⟩ | ⟨⟨same, unended⟩ | same, _⟩
  · exact absurd canonical (none _)
  · exact absurd crossed kept
  · rcases reported.2 with own | ⟨_, ended⟩
    · exact Nat.le_of_eq (by rw [own, same])
    · rw [unended] at ended; cases ended
  · rcases reported.2 with own | ⟨own, _⟩
    all_goals simp [own, same, Rule.number]

namespace Draft

/-- The counts of the draft are those of the tokens in front of the index. -/
structure Counts (draft : Draft) (tokens : List Occurrence) (index : Nat) : Prop where
  opened : draft.opened = count .leftParen (tokens.take index)
  closed : draft.closed = count .rightParen (tokens.take index)

theorem Counts.add {draft : Draft} (counts : draft.Counts tokens index)
    (found : tokens[index]? = some here) (canonical : here.token.Canonical symbol) :
    (draft.add symbol).Counts tokens (index + 1) := by
  constructor <;> rw [count_take_succ found]
  · rw [← counts.opened]
    generalize here.token = token at canonical
    cases canonical <;> rfl
  · rw [← counts.closed]
    generalize here.token = token at canonical
    cases canonical <;> rfl

variable {draft after : Draft} {here : Occurrence} {next : Option Occurrence}

/-- All that a refused step can have met, in the order in which it looks. -/
theorem step_eq_error (refused : draft.step here next = .error violation) :
    here.symbol = .error violation ∨ ∃ symbol, here.token.Canonical symbol ∧
      (¬(draft.add symbol).Ordered ∧ violation = .unmatchedClose here.position ∨
        (draft.add symbol).Ordered ∧ ∃ follower, next = some follower ∧
          here.clash? follower = some violation) := by
  cases read : here.symbol with
  | error reported =>
    simp only [step, read] at refused
    cases refused
    exact .inl rfl
  | ok symbol =>
    refine .inr ⟨symbol, Occurrence.symbol_eq_ok_iff.mp read, ?_⟩
    simp only [step, read] at refused
    by_cases crossed : (draft.note symbol).opened < (draft.note symbol).closed
    · rw [if_pos crossed] at refused
      cases refused
      exact .inl ⟨Nat.not_le.mpr crossed, rfl⟩
    · rw [if_neg crossed] at refused
      cases clash : next.bind here.clash? with
      | none => rw [clash] at refused; cases refused
      | some reported =>
        rw [clash] at refused
        cases refused
        exact .inr ⟨Nat.not_lt.mp crossed, Option.bind_eq_some_iff.mp clash⟩

theorem Counts.crossed_iff (counts : draft.Counts tokens index)
    (found : tokens[index]? = some here) (canonical : here.token.Canonical symbol) :
    Crossed tokens index ↔ ¬(draft.add symbol).Ordered := by
  rw [Crossed, Ordered, (counts.add found canonical).opened, (counts.add found canonical).closed,
    Nat.not_le]

/-- Only a closing parenthesis brings the counts out of order. -/
theorem close_of_unordered {token : Token} (ordered : draft.Ordered)
    (canonical : token.Canonical symbol) (crossed : ¬(draft.add symbol).Ordered) :
    token = .rightParen := by
  cases canonical with
  | rightParen => rfl
  | leftParen => exact absurd (Nat.le_succ_of_le ordered) crossed
  | number | cell | operator => exact absurd ordered crossed

/-- A step that stops reports the foremost breach at its index. -/
theorem foremost_of_step (ordered : draft.Ordered) (counts : draft.Counts tokens index)
    (found : tokens[index]? = some here)
    (refused : draft.step here tokens[index + 1]? = .error violation) :
    Foremost tokens index violation := by
  rcases step_eq_error refused with unread | ⟨symbol, canonical, counted⟩
  · exact foremost_of_symbol found unread
  have crossed := counts.crossed_iff found canonical
  rcases counted with ⟨unordered, rfl⟩ | ⟨kept, next, follows, clash⟩
  · exact foremost_of_close found (close_of_unordered ordered canonical unordered)
      (crossed.mpr unordered)
  · exact foremost_of_clash found canonical (fun less => crossed.mp less kept) follows clash

/-- A step that goes on has met no breach at its index. -/
theorem clean_of_step (counts : draft.Counts tokens index) (found : tokens[index]? = some here)
    (taken : draft.step here tokens[index + 1]? = .ok after) : ¬Breach tokens index violation := by
  intro breach
  obtain ⟨symbol, canonical, rfl, ordered, follows⟩ := step_eq_ok_iff.mp taken
  rcases breach.reason found with ⟨_, none⟩ | ⟨_, crossed⟩ | ⟨_, next, behind, misfit⟩
  · exact none symbol canonical
  · exact (counts.crossed_iff found canonical).mp crossed ordered
  · exact misfit (follows next behind)

/-- What the reading of a whole sequence has found. -/
inductive Verdict (tokens : List Occurrence) : Except Violation Formula → Prop where
  | broken (clean : CleanBefore tokens index) (foremost : Foremost tokens index violation) :
      Verdict tokens (.error violation)
  | unbalanced (clean : ∀ index violation, ¬Breach tokens index violation)
      (uneven : count .leftParen tokens ≠ count .rightParen tokens) :
      Verdict tokens (.error (.unbalanced (count .leftParen tokens) (count .rightParen tokens)))
  | through (clean : ∀ index violation, ¬Breach tokens index violation)
      (even : count .leftParen tokens = count .rightParen tokens) : Verdict tokens (.ok formula)

/-- Reading on from an index that has nothing broken in front of it. -/
theorem read_drop (ordered : draft.Ordered) (counts : draft.Counts tokens index)
    (clean : CleanBefore tokens index) : Verdict tokens (draft.read (tokens.drop index)) := by
  generalize left : tokens.drop index = rest
  induction rest generalizing draft index with
  | nil =>
    have short : tokens.length ≤ index := List.drop_eq_nil_iff.mp left
    have everywhere : ∀ position violation, ¬Breach tokens position violation := by
      intro position violation breach
      have inside : position < tokens.length := breach.inside
      exact clean position (Nat.lt_of_lt_of_le inside short) violation breach
    have opened := counts.opened
    have closed := counts.closed
    rw [List.take_of_length_le short] at opened closed
    rw [Draft.read, finish, opened, closed]
    split
    · exact .through everywhere ‹_›
    · exact .unbalanced everywhere ‹_›
  | cons here rest ih =>
    have found : tokens[index]? = some here := by
      rw [← List.head?_drop, left, List.head?_cons]
    have behind : tokens.drop (index + 1) = rest := by
      rw [← List.tail_drop, left, List.tail_cons]
    rw [Draft.read, ← behind, List.head?_drop]
    cases stepped : draft.step here tokens[index + 1]? with
    | error violation => exact .broken clean (foremost_of_step ordered counts found stepped)
    | ok after =>
      obtain ⟨symbol, canonical, rfl, kept, _⟩ := step_eq_ok_iff.mp stepped
      rw [behind]
      refine ih kept (counts.add found canonical) ?_ behind
      intro earlier before violation
      rcases Nat.lt_succ_iff_lt_or_eq.mp before with before | rfl
      · exact clean earlier before violation
      · exact clean_of_step counts found stepped

end Draft

/-- At one index a rule is broken in one way only. -/
theorem Breach.unique (one : Breach tokens index first) (two : Breach tokens index second)
    (same : first.rule.number = second.rule.number) : first = second := by
  cases one with
  | unrecognized found unknown =>
    cases two with
    | unrecognized again => cases found.symm.trans again; rfl
    | infinite again number =>
      cases found.symm.trans again
      rw [number] at unknown
      cases unknown
    | unmatched | afterOpenOrOperator | afterValueOrClose => cases same
  | infinite found number =>
    cases two with
    | unrecognized again unknown =>
      cases found.symm.trans again
      rw [number] at unknown
      cases unknown
    | infinite again => cases found.symm.trans again; rfl
    | unmatched | afterOpenOrOperator | afterValueOrClose => cases same
  | unmatched found =>
    cases two with
    | unmatched again => cases found.symm.trans again; rfl
    | unrecognized | infinite | afterOpenOrOperator | afterValueOrClose => cases same
  | afterOpenOrOperator found _ follows =>
    cases two with
    | afterOpenOrOperator again _ behind =>
      cases found.symm.trans again
      cases follows.symm.trans behind
      rfl
    | unrecognized | infinite | unmatched | afterValueOrClose => cases same
  | afterValueOrClose found _ follows =>
    cases two with
    | afterValueOrClose again _ behind =>
      cases found.symm.trans again
      cases follows.symm.trans behind
      rfl
    | unrecognized | infinite | unmatched | afterOpenOrOperator => cases same

theorem Foremost.unique (one : Foremost tokens index first) (two : Foremost tokens index second) :
    first = second :=
  one.1.unique two.1 (Nat.le_antisymm (one.2 _ two.1) (two.2 _ one.1))

/-- Two foremost breaches with nothing broken in front of them are the same one. -/
theorem Foremost.unique_of_clean (one : Foremost tokens index first)
    (two : Foremost tokens other second) (clean : CleanBefore tokens index)
    (clear : CleanBefore tokens other) : first = second := by
  rcases Nat.lt_trichotomy index other with before | rfl | before
  · exact absurd one.1 (clear index before first)
  · exact one.unique two
  · exact absurd two.1 (clean other before second)

namespace Draft.Verdict

theorem eq_of_foremost (verdict : Verdict tokens result) (clean : CleanBefore tokens index)
    (foremost : Foremost tokens index violation) : result = .error violation := by
  cases verdict with
  | broken clear other => rw [foremost.unique_of_clean other clean clear]
  | unbalanced clear | through clear => exact absurd foremost.1 (clear _ _)

theorem eq_of_uneven (verdict : Verdict tokens result)
    (clean : ∀ index violation, ¬Breach tokens index violation)
    (uneven : count .leftParen tokens ≠ count .rightParen tokens) :
    result = .error (.unbalanced (count .leftParen tokens) (count .rightParen tokens)) := by
  cases verdict with
  | broken _ other => exact absurd other.1 (clean _ _)
  | unbalanced => rfl
  | through _ even => exact absurd even uneven

theorem refused (verdict : Verdict tokens (.error violation)) (framed : Framed tokens) :
    Refused tokens violation := by
  cases verdict with
  | broken clean foremost => exact .broken framed clean foremost
  | unbalanced clean uneven => exact .unbalanced framed clean uneven

end Draft.Verdict

theorem cannot_start_iff {token : Token} : (!token.isUnrecognized && !token.canStart) = true ↔
    token.isOperator = true ∨ token = .rightParen := by
  cases token <;> simp [Token.isUnrecognized, Token.canStart, Token.isValue, Token.isOperator]

theorem cannot_end_iff {token : Token} : (!token.isUnrecognized && !token.canEnd) = true ↔
    token.isOperator = true ∨ token = .leftParen := by
  cases token <;> simp [Token.isUnrecognized, Token.canEnd, Token.isValue, Token.isOperator]

theorem ofTokens_of_framed (framed : Framed tokens) : ofTokens tokens = Draft.blank.read tokens := by
  obtain ⟨⟨first, starts, front⟩, last, ends, back⟩ := framed
  simp only [ofTokens, starts, ends, if_neg (mt cannot_start_iff.mp front),
    if_neg (mt cannot_end_iff.mp back)]

theorem verdict_of_framed (framed : Framed tokens) : Draft.Verdict tokens (ofTokens tokens) := by
  have ordered : Draft.blank.Ordered := Nat.le_refl 0
  have counts : Draft.blank.Counts tokens 0 := ⟨rfl, rfl⟩
  have clean : CleanBefore tokens 0 := fun _ before => absurd before (Nat.not_lt_zero _)
  rw [ofTokens_of_framed framed]
  exact Draft.read_drop ordered counts clean

theorem refused_of_error (refused : ofTokens tokens = .error violation) :
    Refused tokens violation := by
  cases starts : tokens.head? with
  | none =>
    cases List.head?_eq_none_iff.mp starts
    cases refused
    exact .empty rfl
  | some first =>
    obtain ⟨last, ends⟩ : ∃ last, tokens.getLast? = some last := by
      obtain ⟨rest, rfl⟩ := List.head?_eq_some_iff.mp starts
      simp [List.getLast?_cons]
    by_cases front : first.token.isOperator = true ∨ first.token = .rightParen
    · simp only [ofTokens, starts, ends, if_pos (cannot_start_iff.mpr front)] at refused
      cases refused
      exact .invalidFirst starts front
    by_cases back : last.token.isOperator = true ∨ last.token = .leftParen
    · simp only [ofTokens, starts, ends, if_neg (mt cannot_start_iff.mp front),
        if_pos (cannot_end_iff.mpr back)] at refused
      cases refused
      exact .invalidLast starts front ends back
    have framed : Framed tokens := ⟨⟨first, starts, front⟩, last, ends, back⟩
    have verdict := verdict_of_framed framed
    rw [refused] at verdict
    exact verdict.refused framed

/-- A sequence of tokens is refused for the violation that comes first, with the written
tokens, the places and the counts found there. -/
theorem ofTokens_eq_error_iff : ofTokens tokens = .error violation ↔ Refused tokens violation := by
  refine ⟨refused_of_error, fun refused => ?_⟩
  cases refused with
  | empty nothing => rw [nothing]; rfl
  | @invalidFirst first starts wrong =>
    obtain ⟨rest, rfl⟩ := List.head?_eq_some_iff.mp starts
    simp only [ofTokens, List.head?_cons, List.getLast?_cons, if_pos (cannot_start_iff.mpr wrong)]
  | invalidLast starts right ends wrong =>
    simp only [ofTokens, starts, ends, if_neg (mt cannot_start_iff.mp right),
      if_pos (cannot_end_iff.mpr wrong)]
  | broken framed clean foremost => exact (verdict_of_framed framed).eq_of_foremost clean foremost
  | unbalanced framed clean uneven => exact (verdict_of_framed framed).eq_of_uneven clean uneven

/-- The stray parenthesis is also followed by what may not follow it. -/
example : normalize "1)2" = .error (.unmatchedClose ⟨1, 2, 1⟩) := by decide +kernel

end Formula

end CellArithmetic
