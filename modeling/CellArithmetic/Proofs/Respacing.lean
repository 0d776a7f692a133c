import CellArithmetic.Proofs.Layout
import Mathlib.Data.List.DropRight

/-! The blanks of a formula. A text that is read as a formula is read as the same one with
any other blanks between its lexemes, and with none at all. -/
namespace CellArithmetic

open Grammar

namespace Text

/-- From the end of a text nothing is dropped that stands in front of what stays. -/
theorem rdropWhile_append (stays : p c = false) (s t : List Char) :
    (s ++ c :: t).rdropWhile p = s ++ c :: t.rdropWhile p := by
  have split : (s ++ c :: t).reverse = t.reverse ++ c :: s.reverse := by simp
  rw [List.rdropWhile, List.rdropWhile, split, List.dropWhile_append]
  by_cases gone : (t.reverse.dropWhile p).isEmpty = true
  · simp [List.isEmpty_iff.mp gone, stays]
  · simp [gone]

/-- The blanks behind a lexeme are dropped, and nothing of the lexeme. -/
theorem rdropWhile_append_shown (filled : lexeme ≠ []) (shown : ∀ c ∈ lexeme, isBlank c = false)
    (front s : List Char) :
    (front ++ lexeme ++ s).rdropWhile isBlank = front ++ lexeme ++ s.rdropWhile isBlank := by
  have last : isBlank (lexeme.getLast filled) = false := shown _ (List.getLast_mem _)
  rw [← List.dropLast_concat_getLast filled, ← List.append_assoc, List.append_assoc _ [_],
    List.singleton_append, rdropWhile_append last, List.append_assoc _ [_], List.singleton_append]

theorem Blanks.filter_eq (blanks : Blanks w) : w.filter (!isBlank ·) = [] := by
  apply List.filter_eq_nil_iff.mpr
  intro c member
  simp [blanks c member]

end Text

open Text

theorem Literal.Power.WellFormed.inner_or_sign {power : Power} (formed : power.WellFormed) :
    ∀ c ∈ power.text, isInner c = true ∨ c = '+' ∨ c = '-' := by
  intro c member
  rw [Power.text, List.mem_cons, List.mem_append] at member
  rcases member with rfl | sign | digit
  · rcases formed.mark with mark | mark <;> rw [mark] <;> exact .inl rfl
  · rcases formed.sign with none | plus | minus
    · simp [none] at sign
    · exact .inr (.inl (by simpa [plus] using sign))
    · exact .inr (.inr (by simpa [minus] using sign))
  · exact .inl (by simp [isInner, formed.digits c digit])

theorem Literal.WellFormed.inner_or_sign {literal : Literal} (formed : literal.WellFormed) :
    ∀ c ∈ literal.text, isInner c = true ∨ c = '+' ∨ c = '-' := by
  intro c member
  rw [text, List.mem_append, List.mem_append] at member
  rcases member with (whole | fraction) | power
  · exact .inl (by simp [isInner, formed.whole c whole])
  · cases written : literal.fraction with
    | none => simp [written] at fraction
    | some digits =>
      rw [written, Option.elim_some, List.mem_cons] at fraction
      rcases fraction with rfl | digit
      · exact .inl rfl
      · exact .inl (by simp [isInner, formed.fraction digits written c digit])
  · cases written : literal.power with
    | none => simp [written] at power
    | some own =>
      rw [written] at power
      exact (formed.power own written).inner_or_sign c power

/-- Numbers and names are written with inner characters, and with the signs of powers. -/
theorem Token.Spelled.inner_or_sign (spelled : Token.Spelled token lexeme)
    (value : token.isValue = true) : ∀ c ∈ lexeme, isInner c = true ∨ c = '+' ∨ c = '-' := by
  cases spelled with
  | number formed => exact formed.inner_or_sign
  | cell named => exact fun c member => .inl (named.inner c member)
  | operator | leftParen | rightParen => cases value

/-- No lexeme has a blank in it. -/
theorem Token.Spelled.shown (spelled : Token.Spelled token lexeme) :
    ∀ c ∈ lexeme, isBlank c = false := by
  intro c member
  cases value : token.isValue with
  | true =>
    rcases spelled.inner_or_sign value c member with inner | rfl | rfl
    · exact (plain_of_inner inner).1
    · rfl
    · rfl
  | false =>
    cases spelled with
    | number | cell => cases value
    | @operator op =>
      cases List.mem_singleton.mp member
      cases op <;> rfl
    | leftParen | rightParen =>
      cases List.mem_singleton.mp member
      rfl

/-- A text of lexemes, with a gap in front of them and one behind each. -/
def Text.spaced (lead : String) (lexemes gaps : List String) : String :=
  lead ++ String.join (List.zipWith (· ++ ·) lexemes gaps)

namespace Layout

/-- The lexemes of a layout, in order and without the blanks. -/
theorem filter_shown (layout : Layout parts s) : Layout parts (s.filter (!isBlank ·)) := by
  induction layout with
  | done blanks =>
    rw [blanks.filter_eq]
    exact .done blanks_nil
  | @token w token lexeme parts s blanks spelled _ ih =>
    have kept : lexeme.filter (!isBlank ·) = lexeme :=
      List.filter_eq_self.mpr fun c member => by simp [spelled.shown c member]
    rw [List.filter_append, List.filter_append, blanks.filter_eq, kept]
    exact .token blanks_nil spelled ih

/-- The blanks at the end do not belong to any lexeme. -/
theorem rdropWhile_blank (layout : Layout parts s) : Layout parts (s.rdropWhile isBlank) := by
  induction layout with
  | done blanks =>
    rw [List.rdropWhile_eq_nil_iff.mpr blanks]
    exact .done blanks_nil
  | token blanks spelled _ ih =>
    rw [rdropWhile_append_shown spelled.ne_nil spelled.shown]
    exact .token blanks spelled ih

/-- Any other blanks may stand between the lexemes of a layout. -/
theorem spaced {lexemes gaps : List String} (layout : Layout parts s)
    (written : parts.map Prod.snd = lexemes.map String.toList) (enough : gaps.length = lexemes.length)
    (blanks : ∀ gap ∈ lead :: gaps, Blanks gap.toList) :
    Layout parts (spaced lead lexemes gaps).toList := by
  induction layout generalizing lead lexemes gaps with
  | done =>
    cases lexemes with
    | nil => simpa [Text.spaced] using Layout.done (blanks lead (by simp))
    | cons => cases written
  | @token w token own parts s _ spelled _ ih =>
    cases lexemes with
    | nil => cases written
    | cons lexeme lexemes =>
      cases gaps with
      | nil => cases enough
      | cons gap gaps =>
        obtain ⟨rfl, behind⟩ := List.cons.inj written
        have rest := ih behind (Nat.succ.inj enough)
          fun other member => blanks other (List.mem_cons_of_mem _ member)
        have whole := Layout.token (blanks lead (by simp)) spelled rest
        simpa [Text.spaced, String.toList_append] using whole

end Layout

namespace Formula

/-- The formula of a text is told by the tokens of any layout of it. -/
theorem ofText_of_layout (read : ofText source = .ok formula)
    (layout : Layout (Cursor.pieces (.ofText source)) s) : ofText (String.ofList s) = .ok formula := by
  obtain ⟨_, accepted, symbols, canonical, rfl⟩ := layout_of_ofText read
  exact ofText_of_run layout accepted canonical

theorem ofText_rdropWhile_blank (read : ofText source = .ok formula) :
    ofText (String.ofList (source.toList.rdropWhile isBlank)) = .ok formula :=
  ofText_of_layout read (layout_of_ofText read).1.rdropWhile_blank

/-- With any other blanks around the lexemes, or with none in the whole text, the same
formula is read. -/
theorem ofText_ignores_blanks (read : ofText source = .ok formula) :
    (∀ lead gaps, gaps.length = (scan source).length → (∀ gap ∈ lead :: gaps, Blanks gap.toList) →
      ofText (spaced lead ((scan source).map Occurrence.lexeme) gaps) = .ok formula) ∧
    ofText (String.ofList (source.toList.filter (!isBlank ·))) = .ok formula := by
  have layout := (layout_of_ofText read).1
  constructor
  · intro lead gaps enough blanks
    have written : (Cursor.pieces (.ofText source)).map Prod.snd =
        ((scan source).map Occurrence.lexeme).map String.toList := by
      rw [Cursor.map_snd_pieces, List.map_map]
      rfl
    rw [← List.length_map Occurrence.lexeme] at enough
    have whole := ofText_of_layout read (layout.spaced written enough blanks)
    rwa [String.ofList_toList] at whole
  · exact ofText_of_layout read layout.filter_shown

theorem ofText_ignores_blanks_around_point : ∃ formula, ofText "(x01-2.)\t* .5e+1" = .ok formula ∧
    (∀ lead gaps, gaps.length = (scan "(x01-2.)\t* .5e+1").length →
      (∀ gap ∈ lead :: gaps, Blanks gap.toList) →
      ofText (spaced lead ((scan "(x01-2.)\t* .5e+1").map Occurrence.lexeme) gaps) = .ok formula) ∧
    ofText (String.ofList ("(x01-2.)\t* .5e+1".toList.filter (!isBlank ·))) = .ok formula := by
  have accepted : (ofText "(x01-2.)\t* .5e+1").toBool = true := by decide +kernel
  cases read : ofText "(x01-2.)\t* .5e+1" with
  | error violation =>
    rw [read] at accepted
    cases accepted
  | ok formula => exact ⟨formula, rfl, ofText_ignores_blanks read⟩

/-- A text that is refused may become a formula without its blanks. -/
example : (normalize "1 e5").toBool = false ∧ (normalize "1e5").toBool = true := by decide +kernel

end Formula

end CellArithmetic
