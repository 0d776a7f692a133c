import CellArithmetic.Proofs.Spelling

/-! How a text is scanned. Blanks are passed over, and at the first character that is none a
token is cut off; the tokens from a place on are told by the text alone. -/
namespace CellArithmetic

open Text

def Text.Blanks (s : List Char) : Prop := ∀ c ∈ s, isBlank c = true

theorem Text.blanks_nil : Blanks [] := by
  intro c member
  cases member

theorem Text.Blanks.append (front : Blanks w) (back : Blanks w') : Blanks (w ++ w') := by
  intro c member
  rcases List.mem_append.mp member with first | second
  · exact front c first
  · exact back c second

/-- A text is blank, or another character stands behind the blanks at its front. -/
theorem Text.blanks_or_shown (s : List Char) :
    Blanks s ∨ ∃ w c t, s = w ++ c :: t ∧ Blanks w ∧ isBlank c = false := by
  have blanks : Blanks (s.takeWhile isBlank) := fun c => List.mem_takeWhile_imp
  have whole := List.takeWhile_append_dropWhile (p := isBlank) (l := s)
  cases rest : s.dropWhile isBlank with
  | nil =>
    rw [rest, List.append_nil] at whole
    exact .inl (whole ▸ blanks)
  | cons c t =>
    have shown : isBlank c = false := stops_cons.mp (rest ▸ stops_dropWhile isBlank s)
    rw [rest] at whole
    exact .inr ⟨_, c, t, whole.symm, blanks, shown⟩

namespace Cursor

theorem drain_of_none {cursor : Cursor} (last : cursor.next? = none) :
    cursor.drain = ([], cursor.skipBlanks) := by
  rw [drain]
  split
  · rfl
  · rename_i found
    rw [last] at found
    cases found

theorem drain_of_some {cursor behind : Cursor} (found : cursor.next? = some (here, behind)) :
    cursor.drain = (here :: behind.drain.1, behind.drain.2) := by
  rw [drain]
  split
  · rename_i last
    rw [found] at last
    cases last
  · rename_i same
    cases found.symm.trans same
    rfl

/-- With nothing but blanks ahead there is no token, else one is cut off behind them. -/
theorem next?_of_blanks (blanks : Blanks w) (place : Position) : next? ⟨w, place⟩ = none := by
  have skipped : w.dropWhile isBlank = [] := List.dropWhile_eq_nil_iff.mpr blanks
  simp [next?, skipBlanks, skipped]

theorem next?_of_shown (blanks : Blanks w) (shown : isBlank c = false) (place : Position) :
    next? ⟨w ++ c :: s, place⟩ =
      some (⟨(Token.cut c s).token, String.ofList (Token.cut c s).lexeme, place.advance w⟩,
        ⟨(Token.cut c s).rest, (place.advance w).advance (Token.cut c s).lexeme⟩) := by
  have stops : Stops isBlank (c :: s) := stops_cons.mpr shown
  simp only [next?, skipBlanks, dropWhile_append blanks stops, takeWhile_append blanks stops]

end Cursor

/-- The tokens of a text that begins at a place, one after the other. -/
inductive ScanTrace : Position → List Char → List Occurrence → Prop where
  | done (blanks : Blanks w) : ScanTrace place w []
  | token (blanks : Blanks w) (shown : isBlank c = false)
      (rest : ScanTrace ((place.advance w).advance (Token.cut c s).lexeme) (Token.cut c s).rest tokens) :
      ScanTrace place (w ++ c :: s)
        (⟨(Token.cut c s).token, String.ofList (Token.cut c s).lexeme, place.advance w⟩ :: tokens)

namespace ScanTrace

/-- Every text has a trace: a cut leaves less of it. -/
theorem exists_tokens (place : Position) (s : List Char) : ∃ tokens, ScanTrace place s tokens := by
  rcases blanks_or_shown s with blanks | ⟨w, c, t, whole, blanks, shown⟩
  · exact ⟨[], .done blanks⟩
  · have shorter : (Token.cut c t).rest.length < s.length := by
      have total := congrArg List.length (Token.cut_append c t)
      have filled := List.length_pos_iff.mpr (Token.cut_ne_nil c t)
      rw [List.length_append] at total
      rw [whole, List.length_append]
      omega
    obtain ⟨tokens, rest⟩ :=
      exists_tokens ((place.advance w).advance (Token.cut c t).lexeme) (Token.cut c t).rest
    rw [whole]
    exact ⟨_, .token blanks shown rest⟩
termination_by s.length
decreasing_by exact shorter

/-- The tokens of a trace are those that are found, and nothing of the text is left. -/
theorem drain_eq (trace : ScanTrace place s tokens) :
    Cursor.drain ⟨s, place⟩ = (tokens, ⟨[], place.advance s⟩) := by
  induction trace with
  | @done w place blanks =>
    have skipped : w.dropWhile isBlank = [] := List.dropWhile_eq_nil_iff.mpr blanks
    have whole := List.takeWhile_append_dropWhile (p := isBlank) (l := w)
    rw [skipped, List.append_nil] at whole
    rw [Cursor.drain_of_none (Cursor.next?_of_blanks blanks place), Cursor.skipBlanks]
    dsimp only
    rw [skipped, whole]
  | @token w c s tokens place blanks shown _ ih =>
    rw [Cursor.drain_of_some (Cursor.next?_of_shown blanks shown place), ih, ← Token.cut_append c s,
      Position.advance_append, Position.advance_append]

theorem of_drain (cursor : Cursor) : ScanTrace cursor.position cursor.rest cursor.drain.1 := by
  obtain ⟨tokens, trace⟩ := exists_tokens cursor.position cursor.rest
  rw [trace.drain_eq]
  exact trace

theorem of_scan (text : String) : ScanTrace .start text.toList (scan text) := of_drain (.ofText text)

/-- Behind the text of some tokens the others are scanned. -/
theorem split (trace : ScanTrace place s (front ++ rest)) :
    ∃ u v, s = u ++ v ∧ ScanTrace (place.advance u) v rest := by
  induction front generalizing place s with
  | nil => exact ⟨[], s, rfl, trace⟩
  | cons here front ih =>
    rw [List.cons_append] at trace
    cases trace with
    | @token w c s _ _ blanks shown more =>
      obtain ⟨u, v, same, back⟩ := ih more
      refine ⟨w ++ (Token.cut c s).lexeme ++ u, v, ?_, ?_⟩
      · rw [← Token.cut_append c s, same]
        simp only [List.append_assoc]
      · rw [Position.advance_append, Position.advance_append]
        exact back

/-- A token is what is cut off where it stands. -/
theorem exists_cut (trace : ScanTrace place s tokens) (member : here ∈ tokens) :
    ∃ front c rest, s = front ++ c :: rest ∧ isBlank c = false ∧
      here = ⟨(Token.cut c rest).token, String.ofList (Token.cut c rest).lexeme, place.advance front⟩ := by
  obtain ⟨earlier, later, rfl⟩ := List.append_of_mem member
  obtain ⟨u, v, rfl, back⟩ := trace.split
  cases back with
  | @token w c s _ _ blanks shown =>
    exact ⟨u ++ w, c, s, by rw [List.append_assoc], shown, by rw [Position.advance_append]⟩

end ScanTrace

end CellArithmetic
