import CellArithmetic.Proofs.Respacing
import CellArithmetic.Proofs.Runs

/-! Where the tokens of a text stand. Every token is a piece of the text without blanks, at
the place that the text in front of it tells, and what belongs to no token is blank. -/
namespace CellArithmetic

open Text

namespace Position

/-- The place behind a text: as many lines on as it has line feeds, and as many columns as
characters stand behind the last one. -/
def behind (front : List Char) : Position :=
  ⟨1 + front.count '\n', 1 + (front.rtakeWhile (· != '\n')).length, front.length⟩

theorem next_behind (front : List Char) (c : Char) : (behind front).next c = behind (front ++ [c]) := by
  unfold next behind
  by_cases feed : c = '\n'
  · simp [feed, List.count_append, Nat.add_assoc]
  · simp [feed, List.count_append, Nat.add_assoc]

theorem advance_behind (front s : List Char) : (behind front).advance s = behind (front ++ s) := by
  induction s generalizing front with
  | nil => rw [advance_nil, List.append_nil]
  | cons c s ih => rw [advance_cons, next_behind, ih, List.append_assoc, List.singleton_append]

/-- Reading a text character by character leads to the place behind it. -/
theorem advance_start (front : List Char) : start.advance front = behind front :=
  advance_behind [] front

end Position

namespace Occurrence

/-- The offset at which the text of a token ends. -/
def stop (here : Occurrence) : Nat := here.position.offset + here.lexeme.length

/-- A token stands in a text where and as it says. -/
structure StandsIn (here : Occurrence) (s : List Char) : Prop where
  filled : here.lexeme ≠ ""
  shown : ∀ c ∈ here.lexeme.toList, isBlank c = false
  written : (s.drop here.position.offset).take here.lexeme.length = here.lexeme.toList
  place : here.position = .behind (s.take here.position.offset)

theorem StandsIn.offset_lt_stop {here : Occurrence} (stands : here.StandsIn s) :
    here.position.offset < here.stop := by
  have filled : 0 < here.lexeme.toList.length :=
    List.length_pos_iff.mpr (mt String.toList_eq_nil_iff.mp stands.filled)
  rw [String.length_toList] at filled
  exact Nat.lt_add_of_pos_right filled

end Occurrence

namespace Token

/-- A blank is a boundary, so there is none in a run. -/
theorem shown_of_mem_run (member : d ∈ (run s).1) : isBlank d = false := by
  obtain ⟨front, back, parts⟩ := List.append_of_mem member
  have free : isBoundary (s.drop front.length) = false :=
    not_boundary_of_lt_run s front.length (by simp [parts])
  rw [← run_append s, parts, List.append_assoc, List.drop_left] at free
  cases blank : isBlank d with
  | false => rfl
  | true => simp [isBoundary, blank] at free

theorem shown_of_mem_cut (shown : isBlank c = false) :
    ∀ d ∈ (cut c s).lexeme, isBlank d = false := by
  cases boundary : isBoundary (c :: s) with
  | true => exact (spelled_cut (recognized_of_boundary shown boundary)).shown
  | false =>
    rw [cut_of_not_boundary boundary]
    exact fun d => shown_of_mem_run

end Token

namespace ScanTrace

theorem le_offset (trace : ScanTrace place s tokens) (member : here ∈ tokens) :
    place.offset ≤ here.position.offset := by
  obtain ⟨front, c, rest, _, _, rfl⟩ := trace.exists_cut member
  rw [Position.offset_advance]
  exact Nat.le_add_right _ _

/-- What stands in front of a token tells its place. -/
theorem exists_cut_behind (trace : ScanTrace .start s tokens) (member : here ∈ tokens) :
    ∃ front c rest, s = front ++ c :: rest ∧ isBlank c = false ∧
      here = ⟨(Token.cut c rest).token, String.ofList (Token.cut c rest).lexeme, .behind front⟩ := by
  obtain ⟨front, c, rest, whole, shown, found⟩ := trace.exists_cut member
  rw [Position.advance_start] at found
  exact ⟨front, c, rest, whole, shown, found⟩

theorem standsIn (trace : ScanTrace .start s tokens) (member : here ∈ tokens) : here.StandsIn s := by
  obtain ⟨front, c, rest, rfl, shown, rfl⟩ := trace.exists_cut_behind member
  have place : (Position.behind front).offset = front.length := rfl
  constructor
  · rw [ne_eq, ← String.ofList_nil, String.ofList_inj]
    exact Token.cut_ne_nil c rest
  · rw [String.toList_ofList]
    exact Token.shown_of_mem_cut shown
  · dsimp only
    rw [place, List.drop_left, ← Token.cut_append c rest, String.length_ofList, List.take_left,
      String.toList_ofList]
  · dsimp only
    rw [place, List.take_left]

/-- Every token ends before the next one begins. -/
theorem pairwise_stop_le (trace : ScanTrace place s tokens) :
    tokens.Pairwise fun one other => one.stop ≤ other.position.offset := by
  induction trace with
  | done => exact .nil
  | @token w c s tokens place blanks shown rest ih =>
    refine List.pairwise_cons.mpr ⟨fun other member => ?_, ih⟩
    have behind := rest.le_offset member
    rwa [Position.offset_advance, ← String.length_ofList] at behind

/-- A character that no token covers is blank. -/
theorem blank_or_covered (trace : ScanTrace place s tokens) (found : s[index]? = some c) :
    isBlank c = true ∨ ∃ here ∈ tokens,
      here.position.offset ≤ place.offset + index ∧ place.offset + index < here.stop := by
  induction trace generalizing index with
  | done blanks => exact .inl (blanks c (List.mem_of_getElem? found))
  | @token w d s tokens place blanks shown rest ih =>
    rw [← Token.cut_append d s, ← List.append_assoc, List.getElem?_append] at found
    simp only [List.mem_cons, exists_eq_or_imp, Occurrence.stop, Position.offset_advance,
      String.length_ofList] at ih ⊢
    split at found
    · rename_i inside
      rw [List.getElem?_append] at found
      split at found
      · exact .inl (blanks c (List.mem_of_getElem? found))
      · rw [List.length_append] at inside
        exact .inr (.inl ⟨by omega, by omega⟩)
    · rename_i outside
      rw [List.length_append] at outside found
      rcases ih found with blank | ⟨here, member, low, high⟩
      · exact .inl blank
      · exact .inr (.inr ⟨here, member, by omega, by omega⟩)

end ScanTrace

/-- The tokens of a text stand in it one behind the other, only blanks are left out, and
nothing is left to be scanned. -/
theorem scan_leaves_blanks (text : String) :
    (∀ here ∈ scan text, here.StandsIn text.toList) ∧
    (scan text).Pairwise (fun one other =>
      one.position.offset < other.position.offset ∧ one.stop ≤ other.position.offset) ∧
    (∀ index c, text.toList[index]? = some c →
      (∀ here ∈ scan text, ¬(here.position.offset ≤ index ∧ index < here.stop)) → isBlank c = true) ∧
    (Cursor.ofText text).drain.2 = ⟨[], .behind text.toList⟩ ∧
    (Cursor.ofText text).drain.2.drain = ([], (Cursor.ofText text).drain.2) := by
  have trace := ScanTrace.of_scan text
  have last : (Cursor.ofText text).drain.2 = ⟨[], .behind text.toList⟩ := by
    rw [Cursor.ofText, trace.drain_eq, Position.advance_start]
  refine ⟨fun here => trace.standsIn, ?_, ?_, last, ?_⟩
  · exact trace.pairwise_stop_le.imp_of_mem fun member _ apart =>
      ⟨(trace.standsIn member).offset_lt_stop.trans_le apart, apart⟩
  · intro index c found outside
    rcases trace.blank_or_covered found with blank | ⟨here, member, covered⟩
    · exact blank
    · simp only [Position.start, Nat.zero_add] at covered
      exact absurd covered (outside here member)
  · rw [last]
    exact (ScanTrace.done blanks_nil).drain_eq

theorem scan_leaves_blanks_second_line : ∃ here ∈ scan "x1 +\n  (2)",
    here = ⟨.number ⟨0x4000000000000000⟩, "2", ⟨2, 4, 8⟩⟩ ∧ here.StandsIn "x1 +\n  (2)".toList := by
  have member : ⟨.number ⟨0x4000000000000000⟩, "2", ⟨2, 4, 8⟩⟩ ∈ scan "x1 +\n  (2)" := by
    decide +kernel
  exact ⟨_, member, rfl, (scan_leaves_blanks "x1 +\n  (2)").1 _ member⟩

end CellArithmetic
