import CellArithmetic.Proofs.FirstViolation
import CellArithmetic.Proofs.Places

/-! What a reported violation tells. It names a token of the text by its place and its lexeme,
and where two tokens do not fit together, the one in front as well. An unrecognized token is
named for itself only at the front: anywhere else the token before it is at fault first. -/
namespace CellArithmetic

open Text

/-- What is unrecognized fits behind nothing. -/
theorem Token.misfit_of_unrecognized {token : Token} (unknown : token.isUnrecognized = true) :
    ¬(token.isValue = true ∨ token = .leftParen) ∧
      ¬(token.isOperator = true ∨ token = .rightParen) := by
  cases token with
  | unrecognized => simp [isValue, isOperator]
  | number | cell | operator | leftParen | rightParen => cases unknown

theorem Occurrence.symbol_of_unrecognized {here : Occurrence} (unknown : here.token.isUnrecognized = true) :
    here.symbol = .error (.invalidToken here.lexeme here.position) := by
  unfold symbol
  cases kind : here.token with
  | unrecognized => rfl
  | number | cell | operator | leftParen | rightParen => simp [kind, Token.isUnrecognized] at unknown

namespace Formula

/-- Whatever stands in front of an unrecognized token, a rule is broken there already. -/
theorem exists_breach_before (found : tokens[index + 1]? = some here)
    (unknown : here.token.isUnrecognized = true) : ∃ violation, Breach tokens index violation := by
  obtain ⟨before, front⟩ : ∃ before, tokens[index]? = some before := by
    obtain ⟨inside, _⟩ := List.getElem?_eq_some_iff.mp found
    exact ⟨_, List.getElem?_eq_getElem (Nat.lt_of_succ_lt inside)⟩
  obtain ⟨noStart, noOperator⟩ := Token.misfit_of_unrecognized unknown
  cases kind : before.token with
  | number | cell =>
    have value : before.token.isValue = true := by rw [kind]; rfl
    exact ⟨_, .afterValueOrClose front (.inl value) found noOperator⟩
  | rightParen => exact ⟨_, .afterValueOrClose front (.inr kind) found noOperator⟩
  | operator =>
    have operator : before.token.isOperator = true := by rw [kind]; rfl
    exact ⟨_, .afterOpenOrOperator front (.inr operator) found noStart⟩
  | leftParen => exact ⟨_, .afterOpenOrOperator front (.inl kind) found noStart⟩
  | unrecognized => exact ⟨_, .unrecognized front (by rw [kind]; rfl)⟩

theorem ofTokens_eq_invalidToken_iff : ofTokens tokens = .error (.invalidToken lexeme place) ↔
    ∃ first last, tokens.head? = some first ∧ tokens.getLast? = some last ∧
      first.token.isUnrecognized = true ∧ ¬(last.token.isOperator = true ∨ last.token = .leftParen) ∧
      lexeme = first.lexeme ∧ place = first.position := by
  constructor
  · intro refused
    cases refused_of_error refused with
    | @broken index _ framed clean foremost =>
      obtain ⟨last, ends, fits⟩ := framed.2
      cases foremost.1 with
      | @unrecognized here found unknown =>
        cases index with
        | zero => exact ⟨here, last, by rw [List.head?_eq_getElem?, found], ends, unknown, fits, rfl, rfl⟩
        | succ index =>
          obtain ⟨violation, breach⟩ := exists_breach_before found unknown
          exact absurd breach (clean index (Nat.lt_succ_self index) violation)
  · rintro ⟨first, last, starts, ends, unknown, fits, rfl, rfl⟩
    have framed : Framed tokens :=
      ⟨⟨first, starts, (Token.misfit_of_unrecognized unknown).2⟩, last, ends, fits⟩
    have clean : CleanBefore tokens 0 := fun _ before => absurd before (Nat.not_lt_zero _)
    have found : tokens[0]? = some first := by rw [← List.head?_eq_getElem?, starts]
    exact (verdict_of_framed framed).eq_of_foremost clean
      (foremost_of_symbol found (Occurrence.symbol_of_unrecognized unknown))

/-- With an unrecognized token behind the index, reading comes no farther than up to it. -/
theorem refused_before_unrecognized (found : tokens[index + 1]? = some here)
    (unknown : here.token.isUnrecognized = true) : ∃ violation, ofTokens tokens = .error violation ∧
      (violation.kind = .invalidFirstToken ∨ violation.kind = .invalidLastToken ∨
        ∃ earlier ≤ index, Breach tokens earlier violation) := by
  obtain ⟨_, breach⟩ := exists_breach_before found unknown
  cases result : ofTokens tokens with
  | ok formula =>
    have accepted := exists_ofTokens_iff_run.mp ⟨formula, result⟩
    have recognized := Grammar.State.recognized_of_run accepted here.token
      (List.mem_map_of_mem (List.mem_of_getElem? found))
    rw [unknown] at recognized
    cases recognized
  | error violation =>
    refine ⟨violation, rfl, ?_⟩
    cases refused_of_error result with
    | empty nothing => simp [nothing] at found
    | invalidFirst => exact .inl rfl
    | invalidLast => exact .inr (.inl rfl)
    | @broken earlier _ framed clean foremost =>
      refine .inr (.inr ⟨earlier, ?_, foremost.1⟩)
      by_contra behind
      exact clean index (Nat.lt_of_not_le behind) _ breach
    | unbalanced framed clean => exact absurd breach (clean _ _)

/-- A token is refused for being unrecognized just where it is the first one and the last one
may stand at the end; an unrecognized token farther on is always forestalled. -/
theorem invalidToken_only_in_front :
    (ofTokens tokens = .error (.invalidToken lexeme place) ↔
      ∃ first last, tokens.head? = some first ∧ tokens.getLast? = some last ∧
        first.token.isUnrecognized = true ∧ ¬(last.token.isOperator = true ∨ last.token = .leftParen) ∧
        lexeme = first.lexeme ∧ place = first.position) ∧
    ∀ index here, 0 < index → tokens[index]? = some here → here.token.isUnrecognized = true →
      ∃ violation, ofTokens tokens = .error violation ∧
        (violation.kind = .invalidFirstToken ∨ violation.kind = .invalidLastToken ∨
          ∃ earlier < index, Breach tokens earlier violation) := by
  refine ⟨ofTokens_eq_invalidToken_iff, fun index here later found unknown => ?_⟩
  obtain ⟨before, rfl⟩ := Nat.exists_eq_add_one.mpr later
  obtain ⟨violation, refused, kind⟩ := refused_before_unrecognized found unknown
  exact ⟨violation, refused, by simpa only [Nat.lt_succ_iff] using kind⟩

theorem invalidToken_only_in_front_twice :
    ofTokens (scan "$ 5 @") = .error (.invalidToken "$" ⟨1, 1, 0⟩) ∧
    ∃ here, (scan "$ 5 @")[2]? = some here ∧ here.token.isUnrecognized = true ∧
      ∃ violation, ofTokens (scan "$ 5 @") = .error violation ∧
        (violation.kind = .invalidFirstToken ∨ violation.kind = .invalidLastToken ∨
          ∃ earlier < 2, Breach (scan "$ 5 @") earlier violation) := by
  obtain ⟨told, forestalled⟩ := @invalidToken_only_in_front (scan "$ 5 @") "$" ⟨1, 1, 0⟩
  have starts : (scan "$ 5 @").head? = some ⟨.unrecognized "$", "$", ⟨1, 1, 0⟩⟩ := by decide +kernel
  have found : (scan "$ 5 @")[2]? = some ⟨.unrecognized "@", "@", ⟨1, 5, 4⟩⟩ := by decide +kernel
  have ends : (scan "$ 5 @").getLast? = some ⟨.unrecognized "@", "@", ⟨1, 5, 4⟩⟩ := by decide +kernel
  exact ⟨told.mpr ⟨_, _, starts, ends, rfl, by decide, rfl, rfl⟩,
    _, found, rfl, forestalled 2 _ (by decide) found rfl⟩

/-- Behind a number an unrecognized token is reported for not fitting there. -/
example : normalize "5 $" = .error (.afterValueOrClose "5" "$" ⟨1, 3, 2⟩) := by decide +kernel

end Formula

/-- The violation tells of a token and the tokens in front of it: its place, its lexeme unless it
is a closing parenthesis, and the lexeme of the last one in front where that one is told. -/
structure Violation.TellsOf (violation : Violation) (front : List Occurrence) (here : Occurrence) :
    Prop where
  place : violation.position = some here.position
  lexeme : violation.lexeme = some here.lexeme ∨ violation.lexeme = none ∧ here.token = .rightParen
  previous : ∀ previous ∈ violation.previous, ∃ before ∈ front.getLast?, before.lexeme = previous

namespace Formula

private theorem split_of_getElem? {tokens : List Occurrence} (found : tokens[index]? = some here) :
    tokens = tokens.take index ++ here :: tokens.drop (index + 1) := by
  obtain ⟨inside, rfl⟩ := List.getElem?_eq_some_iff.mp found
  rw [List.getElem_cons_drop, List.take_append_drop]

theorem Breach.tellsOf (breach : Breach tokens index violation) :
    ∃ front here rest, tokens = front ++ here :: rest ∧ violation.TellsOf front here := by
  have next {before : Occurrence} (found : tokens[index]? = some before) :
      (tokens.take (index + 1)).getLast? = some before := by
    rw [List.take_add_one, found, Option.toList_some, List.getLast?_concat]
  cases breach with
  | unrecognized found => exact ⟨_, _, _, split_of_getElem? found, rfl, .inl rfl, nofun⟩
  | infinite found => exact ⟨_, _, _, split_of_getElem? found, rfl, .inl rfl, nofun⟩
  | unmatched found close => exact ⟨_, _, _, split_of_getElem? found, rfl, .inr ⟨rfl, close⟩, nofun⟩
  | afterOpenOrOperator found _ follows =>
    refine ⟨_, _, _, split_of_getElem? follows, rfl, .inl rfl, ?_⟩
    rintro _ ⟨⟩
    exact ⟨_, next found, rfl⟩
  | afterValueOrClose found _ follows =>
    refine ⟨_, _, _, split_of_getElem? follows, rfl, .inl rfl, ?_⟩
    rintro _ ⟨⟩
    exact ⟨_, next found, rfl⟩

/-- A violation that has a place tells of the token there. -/
theorem Refused.tellsOf (refused : Refused tokens violation) (placed : violation.position = some place) :
    ∃ front here rest, tokens = front ++ here :: rest ∧ violation.TellsOf front here := by
  cases refused with
  | empty => cases placed
  | @invalidFirst first starts =>
    obtain ⟨rest, rfl⟩ := List.head?_eq_some_iff.mp starts
    exact ⟨[], first, rest, rfl, rfl, .inl rfl, nofun⟩
  | @invalidLast _ last _ _ ends =>
    obtain ⟨front, rfl⟩ := List.getLast?_eq_some_iff.mp ends
    exact ⟨front, last, [], rfl, rfl, .inl rfl, nofun⟩
  | broken _ _ foremost => exact foremost.1.tellsOf
  | unbalanced => cases placed

end Formula

theorem lexeme_of_rightParen (member : here ∈ scan text) (close : here.token = .rightParen) :
    here.lexeme = ")" := by
  obtain ⟨_, c, rest, _, _, rfl⟩ := (ScanTrace.of_scan text).exists_cut member
  exact congrArg String.ofList (Token.cut_of_rightParen close).2

/-- Between two tokens next to each other there is nothing but blanks. -/
theorem ScanTrace.take_offset (trace : ScanTrace .start s (front ++ before :: here :: rest)) :
    ∃ u w, Blanks w ∧ s.take here.position.offset = u ++ before.lexeme.toList ++ w := by
  obtain ⟨u, v, rfl, back⟩ := trace.split
  cases back with
  | @token w c s _ _ _ _ back =>
    rw [← Token.cut_append c s]
    generalize (Token.cut c s).rest = t at back ⊢
    cases back with
    | @token w' d t _ _ blanks _ _ =>
      refine ⟨u ++ w, w', blanks, ?_⟩
      simp only [Position.offset_advance, String.toList_ofList]
      have parts : u ++ (w ++ ((Token.cut c s).lexeme ++ (w' ++ d :: t))) =
          u ++ w ++ (Token.cut c s).lexeme ++ w' ++ d :: t := by simp only [List.append_assoc]
      rw [parts, List.take_left']
      simp only [List.length_append, Position.start, Nat.zero_add]

namespace Formula

/-- Only a blank text has nothing in it to be refused for. -/
theorem ofText_eq_empty_iff {text : String} :
    ofText text = .error .empty ↔ Blanks text.toList := by
  constructor
  · intro refused
    have trace := ScanTrace.of_scan text
    cases refused_of_error refused with
    | empty nothing =>
      rw [nothing] at trace
      generalize text.toList = s at trace
      cases trace with
      | done blanks => exact blanks
    | broken _ _ foremost => cases foremost.1
  · intro blanks
    have nothing : scan text = [] := by
      rw [scan, Cursor.ofText, (ScanTrace.done blanks).drain_eq]
    rw [ofText, nothing]
    rfl

/-- Where a violation has a place, it is the one where the named lexeme stands in the text; and
the lexeme that is named as previous is the one before it, with only blanks in between. -/
theorem violation_points_into_text (text : String) :
    (ofText text = .error .empty ↔ Blanks text.toList) ∧
    ∀ violation, ofText text = .error violation → ∀ place ∈ violation.position,
      place = .behind (text.toList.take place.offset) ∧
      (violation.lexeme.getD ")").toList <+: text.toList.drop place.offset ∧
      ∀ previous ∈ violation.previous,
        previous.toList <:+ (text.toList.take place.offset).rdropWhile isBlank ∧
        ∃ front before here rest, scan text = front ++ before :: here :: rest ∧
          before.lexeme = previous ∧ here.position = place := by
  refine ⟨ofText_eq_empty_iff, fun violation refused place placed => ?_⟩
  obtain ⟨front, here, rest, parts, tells⟩ := (refused_of_error refused).tellsOf placed
  obtain rfl : here.position = place := Option.some.inj (tells.place.symm.trans placed)
  have trace := ScanTrace.of_scan text
  have member : here ∈ scan text := by simp [parts]
  have stands := trace.standsIn member
  refine ⟨stands.place, ?_, fun previous told => ?_⟩
  · have lexeme : violation.lexeme.getD ")" = here.lexeme := by
      rcases tells.lexeme with own | ⟨none, close⟩
      · rw [own, Option.getD_some]
      · rw [none, Option.getD_none, lexeme_of_rightParen member close]
    rw [lexeme, ← stands.written]
    exact List.take_prefix _ _
  · obtain ⟨before, last, rfl⟩ := tells.previous previous told
    obtain ⟨earlier, rfl⟩ := List.getLast?_eq_some_iff.mp last
    rw [List.append_assoc, List.singleton_append] at parts
    have stands' := trace.standsIn (show before ∈ scan text by simp [parts])
    rw [parts] at trace
    obtain ⟨u, w, blanks, ahead⟩ := trace.take_offset
    refine ⟨?_, earlier, before, here, rest, parts, rfl, rfl⟩
    have filled : before.lexeme.toList ≠ [] := mt String.toList_eq_nil_iff.mp stands'.filled
    rw [ahead, rdropWhile_append_shown filled stands'.shown, List.rdropWhile_eq_nil_iff.mpr blanks,
      List.append_nil]
    exact List.suffix_append _ _

theorem violation_points_into_text_second_line :
    ofText "(x1\n  3 )" = .error (.afterValueOrClose "x1" "3" ⟨2, 3, 6⟩) ∧
    (⟨2, 3, 6⟩ : Position) = .behind ("(x1\n  3 )".toList.take 6) ∧
    "3".toList <+: "(x1\n  3 )".toList.drop 6 ∧
    "x1".toList <:+ ("(x1\n  3 )".toList.take 6).rdropWhile isBlank ∧
    ∃ front before here rest, scan "(x1\n  3 )" = front ++ before :: here :: rest ∧
      before.lexeme = "x1" ∧ here.position = ⟨2, 3, 6⟩ := by
  have refused : ofText "(x1\n  3 )" = .error (.afterValueOrClose "x1" "3" ⟨2, 3, 6⟩) :=
    normalize_eq_error_iff.mp (by decide +kernel)
  obtain ⟨place, lexeme, previous⟩ := (violation_points_into_text "(x1\n  3 )").2 _ refused _ rfl
  exact ⟨refused, place, lexeme, previous _ rfl⟩

end Formula

end CellArithmetic
