import CellArithmetic.Proofs.Acceptance
import CellArithmetic.Proofs.ScanTrace
import Mathlib.Data.List.Chain

/-! Tokens written out with blanks between them, and the scan that finds them again. In a
formula no two values touch, so the blanks are needed nowhere. -/
namespace CellArithmetic

open Grammar Text

/-- The tokens, each with the text that it is written as, in a text with any blanks before,
between and behind them. -/
inductive Layout : List (Token × List Char) → List Char → Prop where
  | done (blanks : Blanks w) : Layout [] w
  | token (blanks : Blanks w) (spelled : Token.Spelled token lexeme) (rest : Layout parts s) :
      Layout ((token, lexeme) :: parts) (w ++ lexeme ++ s)

namespace Layout

theorem blanks_append (blanks : Blanks w) (layout : Layout parts s) : Layout parts (w ++ s) := by
  cases layout with
  | done more => exact .done (blanks.append more)
  | token before spelled rest =>
    rw [← List.append_assoc, ← List.append_assoc]
    exact .token (blanks.append before) spelled rest

theorem append (front : Layout parts s) (back : Layout others t) :
    Layout (parts ++ others) (s ++ t) := by
  induction front with
  | done blanks => exact back.blanks_append blanks
  | token blanks spelled rest ih =>
    rw [List.append_assoc]
    exact .token blanks spelled ih

theorem single {piece : Token} (spelled : piece.Spelled lexeme) : Layout [(piece, lexeme)] lexeme := by
  have layout := Layout.token blanks_nil spelled (.done blanks_nil)
  simpa using layout

/-- The text of some tokens and the text of the tokens behind them. -/
theorem exists_append (layout : Layout (parts ++ others) s) :
    ∃ front back, s = front ++ back ∧ Layout parts front ∧ Layout others back := by
  induction parts generalizing s with
  | nil => exact ⟨[], s, rfl, .done blanks_nil, layout⟩
  | cons piece parts ih =>
    cases layout with
    | token blanks spelled rest =>
      obtain ⟨front, back, rfl, first, second⟩ := ih rest
      exact ⟨_, back, by simp only [List.append_assoc], .token blanks spelled first, second⟩

end Layout

namespace Cursor

/-- Token and lexeme of every occurrence. -/
def pieces (cursor : Cursor) : List (Token × List Char) :=
  cursor.drain.1.map fun here => (here.token, here.lexeme.toList)

theorem map_fst_pieces (text : String) :
    (pieces (.ofText text)).map Prod.fst = (scan text).map Occurrence.token := by
  simp only [pieces, scan, List.map_map, Function.comp_def]

theorem map_snd_pieces (text : String) :
    (pieces (.ofText text)).map Prod.snd = (scan text).map (·.lexeme.toList) := by
  simp only [pieces, scan, List.map_map, Function.comp_def]

theorem pieces_of_trace (trace : ScanTrace place s tokens) :
    pieces ⟨s, place⟩ = tokens.map fun here => (here.token, here.lexeme.toList) := by
  rw [pieces, trace.drain_eq]

end Cursor

private theorem Text.Blanks.stops (blanks : Blanks w) (filled : w ≠ []) (s : List Char) :
    Stops isInner (w ++ s) := by
  obtain ⟨c, w, rfl⟩ := List.exists_cons_of_ne_nil filled
  refine stops_cons.mpr (Bool.eq_false_iff.mpr fun inner => ?_)
  have shown := (plain_of_inner inner).1
  rw [blanks c (by simp)] at shown
  cases shown

/-- No value stands right behind another one. -/
def Token.Apart (tokens : List Token) : Prop :=
  tokens.IsChain fun token next => token.isValue = true → next.isValue = false

theorem Grammar.State.apart_of_run {state last : State} (accepted : state.run tokens = some last) :
    Token.Apart tokens := by
  induction tokens generalizing state with
  | nil => exact .nil
  | cons token rest ih =>
    obtain ⟨next, taken, accepted⟩ := Option.bind_eq_some_iff.mp accepted
    refine List.isChain_cons.mpr ⟨fun follower found value => ?_, ih accepted⟩
    have behind : next.expected = .operator :=
      (State.admits_of_step taken).2.trans (if_pos (by simp [Token.canEnd, value]))
    have admitted := State.admits_head accepted follower found
    rw [behind] at admitted
    cases follower with
    | operator | leftParen | rightParen | unrecognized => rfl
    | number | cell => cases admitted

/-- The tokens at their places in a text that begins at a place, with any blanks before, between
and behind them. -/
inductive Placed : Position → List Occurrence → List Char → Prop where
  | done (blanks : Blanks w) : Placed place [] w
  | token (blanks : Blanks w) (spelled : Token.Spelled token lexeme)
      (rest : Placed ((place.advance w).advance lexeme) tokens s) :
      Placed place (⟨token, String.ofList lexeme, place.advance w⟩ :: tokens) (w ++ lexeme ++ s)

namespace Placed

theorem blanks_append (blanks : Blanks w) (placed : Placed (place.advance w) tokens s) :
    Placed place tokens (w ++ s) := by
  cases placed with
  | done more => exact .done (blanks.append more)
  | token before spelled rest =>
    rw [← Position.advance_append place] at rest ⊢
    rw [← List.append_assoc, ← List.append_assoc]
    exact .token (blanks.append before) spelled rest

theorem append (front : Placed place tokens s) (back : Placed (place.advance s) others t) :
    Placed place (tokens ++ others) (s ++ t) := by
  induction front with
  | done blanks => exact back.blanks_append blanks
  | token blanks spelled _ ih =>
    rw [Position.advance_append, Position.advance_append] at back
    rw [List.append_assoc]
    exact .token blanks spelled (ih back)

theorem single (place : Position) {piece : Token} (spelled : piece.Spelled lexeme) :
    Placed place [⟨piece, String.ofList lexeme, place⟩] lexeme := by
  have placed : Placed place [⟨piece, String.ofList lexeme, place.advance []⟩] ([] ++ lexeme ++ []) :=
    .token blanks_nil spelled (.done blanks_nil)
  simpa using placed

/-- A text whose first token is no value does not go on with a number or a name in front. -/
theorem stops (placed : Placed place tokens s)
    (first : ∀ here ∈ tokens.head?, here.token.isValue = false) : Stops isInner s := by
  cases placed with
  | done blanks =>
    by_cases empty : s = []
    · rw [empty]
      exact stops_nil _
    · simpa using blanks.stops empty []
  | @token w token lexeme _ _ _ blanks spelled _ =>
    by_cases empty : w = []
    · have plain : token.isValue = false := first _ rfl
      rw [empty]
      cases spelled with
      | number | cell => cases plain
      | @operator op => cases op <;> exact stops_cons.mpr rfl
      | leftParen | rightParen => exact stops_cons.mpr rfl
    · rw [List.append_assoc]
      exact blanks.stops empty _

/-- Scanning finds the tokens again at their places, if no value touches another. -/
theorem trace (placed : Placed place tokens s)
    (apart : Token.Apart (tokens.map Occurrence.token)) : ScanTrace place s tokens := by
  induction placed with
  | done blanks => exact .done blanks
  | @token w token lexeme tokens s place blanks spelled rest ih =>
    obtain ⟨next, apart⟩ := List.isChain_cons.mp apart
    have stops : token.isValue = true → Stops isInner s := by
      intro value
      apply rest.stops
      intro here found
      exact next here.token (by rw [List.head?_map, found]; rfl) value
    obtain ⟨c, t, first, shown, cut⟩ := spelled.cut stops
    have whole : ScanTrace place (w ++ c :: t) _ := .token blanks shown (by rw [cut]; exact ih apart)
    rw [cut] at whole
    rw [List.append_assoc, first]
    exact whole

end Placed

theorem Layout.exists_placed (layout : Layout parts s) (place : Position) : ∃ tokens,
    Placed place tokens s ∧ tokens.map (fun here => (here.token, here.lexeme.toList)) = parts := by
  induction layout generalizing place with
  | done blanks => exact ⟨[], .done blanks, rfl⟩
  | @token w token lexeme parts s blanks spelled _ ih =>
    obtain ⟨tokens, placed, same⟩ := ih ((place.advance w).advance lexeme)
    exact ⟨_, .token blanks spelled placed, by rw [List.map_cons, String.toList_ofList, same]⟩

/-- Scanning finds the tokens of a layout again, if they may follow each other. -/
theorem Layout.exists_trace (layout : Layout parts s)
    (accepted : State.run state (parts.map Prod.fst) = some last) (place : Position) :
    ∃ tokens, ScanTrace place s tokens ∧
      tokens.map (fun here => (here.token, here.lexeme.toList)) = parts := by
  obtain ⟨tokens, placed, rfl⟩ := layout.exists_placed place
  rw [List.map_map] at accepted
  exact ⟨tokens, placed.trace (State.apart_of_run accepted), rfl⟩

theorem Layout.pieces_eq (layout : Layout parts s)
    (accepted : State.run state (parts.map Prod.fst) = some last) (place : Position) :
    Cursor.pieces ⟨s, place⟩ = parts := by
  obtain ⟨tokens, trace, same⟩ := layout.exists_trace accepted place
  rw [Cursor.pieces_of_trace trace, same]

/-- Up to a token, a text without unrecognized tokens is a layout of the tokens in front. -/
theorem ScanTrace.layout_front (trace : ScanTrace place s (front ++ rest))
    (recognized : ∀ here ∈ front, here.token.isUnrecognized = false) :
    ∃ u v, s = u ++ v ∧ Layout (front.map fun here => (here.token, here.lexeme.toList)) u ∧
      ScanTrace (place.advance u) v rest := by
  induction front generalizing place s with
  | nil => exact ⟨[], s, rfl, .done blanks_nil, trace⟩
  | cons here front ih =>
    rw [List.cons_append] at trace
    cases trace with
    | @token w c s _ _ blanks shown more =>
      obtain ⟨u, v, same, layout, back⟩ :=
        ih more fun other member => recognized other (List.mem_cons_of_mem _ member)
      refine ⟨w ++ (Token.cut c s).lexeme ++ u, v, ?_, ?_, ?_⟩
      · rw [← Token.cut_append c s, same]
        simp only [List.append_assoc]
      · rw [List.map_cons, String.toList_ofList]
        exact .token blanks (Token.spelled_cut (recognized _ List.mem_cons_self)) layout
      · rw [Position.advance_append, Position.advance_append]
        exact back

/-- A text without unrecognized tokens is a layout of its tokens. -/
theorem ScanTrace.layout (trace : ScanTrace place s tokens)
    (recognized : ∀ here ∈ tokens, here.token.isUnrecognized = false) :
    Layout (tokens.map fun here => (here.token, here.lexeme.toList)) s := by
  rw [← List.append_nil tokens] at trace
  obtain ⟨u, v, rfl, layout, back⟩ := trace.layout_front recognized
  cases back with
  | done blanks => simpa using layout.append (.done blanks)

/-- Every symbol of a layout is that of a token that is spelled in it. -/
theorem Layout.exists_spelled (layout : Layout parts s)
    (canonical : List.Forall₂ Token.Canonical (parts.map Prod.fst) symbols) (member : sign ∈ symbols) :
    ∃ token lexeme, Token.Spelled token lexeme ∧ token.Canonical sign := by
  induction layout generalizing symbols with
  | done =>
    cases canonical
    cases member
  | token _ spelled _ ih =>
    cases canonical with
    | cons first rest =>
      rcases List.mem_cons.mp member with rfl | member
      · exact ⟨_, _, spelled, first⟩
      · exact ih rest member

/-- If its tokens may follow each other, a text is a layout of them. -/
theorem Cursor.layout_of_run
    (accepted : State.run state ((pieces ⟨s, place⟩).map Prod.fst) = some last) :
    Layout (pieces ⟨s, place⟩) s := by
  apply (ScanTrace.of_drain ⟨s, place⟩).layout
  intro here member
  exact State.recognized_of_run accepted _ (List.mem_map_of_mem (List.mem_map_of_mem member))

namespace Formula

/-- What is known of a text that is read as a formula. -/
theorem layout_of_ofText (read : ofText source = .ok formula) :
    Layout (Cursor.pieces (.ofText source)) source.toList ∧
    State.run .start ((Cursor.pieces (.ofText source)).map Prod.fst) = some .final ∧
    ∃ symbols, List.Forall₂ Token.Canonical ((Cursor.pieces (.ofText source)).map Prod.fst) symbols ∧
      formula = ofSymbols symbols := by
  rw [ofText, ofTokens_eq_ok_iff, ← Cursor.map_fst_pieces] at read
  obtain ⟨accepted, symbols⟩ := read
  exact ⟨Cursor.layout_of_run accepted, accepted, symbols⟩

/-- A layout of tokens that the grammar takes is read as the formula of their symbols. -/
theorem ofText_of_run {symbols : List Symbol} (layout : Layout parts s)
    (accepted : State.run .start (parts.map Prod.fst) = some .final)
    (canonical : List.Forall₂ Token.Canonical (parts.map Prod.fst) symbols) :
    ofText (String.ofList s) = .ok (ofSymbols symbols) := by
  rw [ofText, ofTokens_eq_ok_iff, ← Cursor.map_fst_pieces, Cursor.ofText, String.toList_ofList,
    layout.pieces_eq accepted]
  exact ⟨accepted, symbols, canonical, rfl⟩

theorem exists_ofText_of_run (layout : Layout parts s)
    (accepted : State.run .start (parts.map Prod.fst) = some .final) :
    ∃ formula, ofText (String.ofList s) = .ok formula := by
  obtain ⟨symbols, canonical⟩ := State.canonical_of_run accepted
  exact ⟨_, ofText_of_run layout accepted canonical⟩

end Formula

end CellArithmetic
