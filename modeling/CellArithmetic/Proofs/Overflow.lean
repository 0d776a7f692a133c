import CellArithmetic.Proofs.FirstViolation
import CellArithmetic.Proofs.Places
import CellArithmetic.Proofs.TextGrammar

/-! Numbers that are too large. In a text that would be a formula if numbers of any size were
allowed, the first number from `2 ^ 1024 - 2 ^ 970` on is reported, and nothing else can be. -/
namespace CellArithmetic

open Grammar Text

namespace Token

/-- Whether the token is a number that is not finite. -/
def isInfinite : Token → Bool
  | number value => !value.isFinite
  | _ => false

def isNumber : Token → Bool
  | number _ => true
  | _ => false

theorem isNumber_of_isInfinite {token : Token} (infinite : token.isInfinite = true) :
    token.isNumber = true := by
  cases token with
  | number => rfl
  | cell | operator | leftParen | rightParen | unrecognized => cases infinite

/-- The token with zero in the place of any number. -/
def zeroed : Token → Token
  | number _ => .number ⟨0⟩
  | token => token

@[simp] theorem isValue_zeroed (token : Token) : token.zeroed.isValue = token.isValue := by
  cases token <;> rfl

@[simp] theorem isOperator_zeroed (token : Token) : token.zeroed.isOperator = token.isOperator := by
  cases token <;> rfl

@[simp] theorem isUnrecognized_zeroed (token : Token) :
    token.zeroed.isUnrecognized = token.isUnrecognized := by
  cases token <;> rfl

theorem zeroed_eq_iff {token other : Token} (plain : other.isValue = false) :
    token.zeroed = other ↔ token = other := by
  cases token with
  | number =>
    constructor
    · rintro rfl
      cases plain
    · rintro rfl
      cases plain
  | cell | operator | leftParen | rightParen | unrecognized => rfl

end Token

theorem Grammar.finiteNumbers_iff :
    FiniteNumbers tokens ↔ ∀ token ∈ tokens, token.isInfinite = false := by
  constructor
  · intro finite token member
    cases token with
    | number value => simp [Token.isInfinite, finite value member]
    | cell | operator | leftParen | rightParen | unrecognized => rfl
  · intro finite value member
    simpa [Token.isInfinite] using finite _ member

theorem Grammar.finiteNumbers_zeroed (tokens : List Token) : FiniteNumbers (tokens.map Token.zeroed) := by
  rw [finiteNumbers_iff]
  intro token member
  obtain ⟨other, _, rfl⟩ := List.mem_map.mp member
  cases other <;> rfl

/-- The grammar does not look at numbers. -/
theorem Grammar.Derives.zeroed (derived : Derives category tokens) :
    Derives category (tokens.map Token.zeroed) := by
  induction derived with
  | expression _ _ operand more =>
    rw [List.map_append]
    exact .expression operand more
  | nothing => exact .nothing
  | operation op _ _ operand more =>
    rw [List.map_cons, List.map_append]
    exact .operation op operand more
  | number => exact .number _
  | cell name => exact .cell name
  | parentheses _ inner =>
    rw [List.map_cons, List.map_append]
    exact .parentheses inner

theorem Grammar.Derives.run_zeroed (derived : Derives .expression tokens) :
    State.run .start (tokens.map Token.zeroed) = some .final :=
  run_eq_final_iff.mpr ⟨derived.zeroed, finiteNumbers_zeroed tokens⟩

theorem Grammar.Derives.apart (derived : Derives .expression tokens) : Token.Apart tokens := by
  have apart := State.apart_of_run derived.run_zeroed
  rw [Token.Apart, List.isChain_map] at apart
  simp only [Token.isValue_zeroed] at apart
  exact apart

namespace Occurrence

def zeroed (here : Occurrence) : Occurrence := { here with token := here.token.zeroed }

theorem token_zeroed (here : Occurrence) : here.zeroed.token = here.token.zeroed := rfl

theorem map_token_zeroed (tokens : List Occurrence) :
    (tokens.map zeroed).map token = (tokens.map token).map Token.zeroed := by
  simp only [List.map_map, Function.comp_def, zeroed]

end Occurrence

/-- No token behind another one begins before it. -/
theorem ScanTrace.offset_le_of_mem (trace : ScanTrace place s (front ++ here :: rest))
    (member : other ∈ here :: rest) : here.position.offset ≤ other.position.offset := by
  rcases List.mem_cons.mp member with rfl | later
  · exact Nat.le_refl _
  · have apart := (List.pairwise_append.mp trace.pairwise_stop_le).2.1
    exact Nat.le_of_add_right_le ((List.pairwise_cons.mp apart).1 other later)

namespace Formula

theorem count_zeroed (plain : token.isValue = false) (tokens : List Occurrence) :
    count token (tokens.map Occurrence.zeroed) = count token tokens := by
  induction tokens with
  | nil => rfl
  | cons here rest ih =>
    simp only [count, List.map_cons, List.count_cons, beq_iff_eq] at ih ⊢
    rw [ih]
    exact congrArg _ (if_congr (Token.zeroed_eq_iff plain) rfl rfl)

theorem crossed_zeroed_iff : Crossed (tokens.map Occurrence.zeroed) index ↔ Crossed tokens index := by
  rw [Crossed, Crossed, ← List.map_take, count_zeroed rfl, count_zeroed rfl]

/-- With zeros for the numbers the rules are broken as before, but for infinite numbers. -/
theorem Breach.zeroed (breach : Breach tokens index violation) :
    Breach (tokens.map Occurrence.zeroed) index violation ∨
      ∃ here, tokens[index]? = some here ∧ here.token.isInfinite = true := by
  have behind {place : Nat} {here : Occurrence} (found : tokens[place]? = some here) :
      (tokens.map Occurrence.zeroed)[place]? = some here.zeroed := by
    rw [List.getElem?_map, found, Option.map_some]
  cases breach with
  | unrecognized found unknown =>
    left
    have moved := Breach.unrecognized (behind found) ((Token.isUnrecognized_zeroed _).trans unknown)
    exact moved
  | infinite found number infinite =>
    exact .inr ⟨_, found, by simp [number, Token.isInfinite, infinite]⟩
  | unmatched found close crossed =>
    left
    have moved := Breach.unmatched (behind found) ((Token.zeroed_eq_iff rfl).mpr close)
      (crossed_zeroed_iff.mpr crossed)
    exact moved
  | afterOpenOrOperator found before follows misfit =>
    left
    have moved := Breach.afterOpenOrOperator (behind found)
      (by rwa [Occurrence.token_zeroed, Token.zeroed_eq_iff rfl, Token.isOperator_zeroed])
      (behind follows)
      (by rwa [Occurrence.token_zeroed, Token.zeroed_eq_iff rfl, Token.isValue_zeroed])
    exact moved
  | afterValueOrClose found before follows misfit =>
    left
    have moved := Breach.afterValueOrClose (behind found)
      (by rwa [Occurrence.token_zeroed, Token.zeroed_eq_iff rfl, Token.isValue_zeroed])
      (behind follows)
      (by rwa [Occurrence.token_zeroed, Token.zeroed_eq_iff rfl, Token.isOperator_zeroed])
    exact moved

theorem framed_of_run (run : State.run .start (tokens.map Occurrence.token) = some .final) :
    Framed tokens := by
  cases starts : tokens.head? with
  | none =>
    cases List.head?_eq_none_iff.mp starts
    cases run
  | some first =>
    obtain ⟨last, ends⟩ : ∃ last, tokens.getLast? = some last := by
      obtain ⟨rest, rfl⟩ := List.head?_eq_some_iff.mp starts
      simp [List.getLast?_cons]
    have front : first.token.canStart = true :=
      State.admits_head run first.token (by rw [List.head?_map, starts]; rfl)
    obtain ⟨before, taken⟩ := State.step_of_last run (by rw [List.getLast?_map, ends]; rfl)
    have behind := (State.admits_of_step taken).2
    refine ⟨⟨first, starts, ?_⟩, last, ends, ?_⟩
    · intro wrong
      rcases wrong with op | close
      · cases kind : first.token <;> simp_all [Token.canStart, Token.isValue, Token.isOperator]
      · rw [close] at front
        cases front
    · intro wrong
      have unended : last.token.canEnd = false := Token.canEnd_of_opens wrong.symm
      rw [Expected.behind, unended] at behind
      cases behind

theorem Framed.of_zeroed (framed : Framed (tokens.map Occurrence.zeroed)) : Framed tokens := by
  obtain ⟨⟨first, starts, front⟩, last, ends, back⟩ := framed
  rw [List.head?_map] at starts
  rw [List.getLast?_map] at ends
  obtain ⟨first, foremost, rfl⟩ := Option.map_eq_some_iff.mp starts
  obtain ⟨last, hindmost, rfl⟩ := Option.map_eq_some_iff.mp ends
  rw [Occurrence.token_zeroed, Token.isOperator_zeroed, Token.zeroed_eq_iff rfl] at front back
  exact ⟨⟨first, foremost, front⟩, last, hindmost, back⟩

/-- In a sequence that the grammar derives, only infinite numbers break a rule. -/
theorem infinite_of_breach (derived : Derives .expression (tokens.map Occurrence.token))
    (breach : Breach tokens index violation) :
    ∃ here, tokens[index]? = some here ∧ here.token.isInfinite = true := by
  have run := derived.run_zeroed
  rw [← Occurrence.map_token_zeroed] at run
  obtain ⟨formula, read⟩ := exists_ofTokens_iff_run.mpr run
  have verdict := verdict_of_framed (framed_of_run run)
  rw [read] at verdict
  cases verdict with
  | through clean => exact breach.zeroed.resolve_left (clean _ _)

/-- Behind finite numbers, an infinite one in an expression is what is reported. -/
theorem ofTokens_of_infinite (derived : Derives .expression ((front ++ here :: rest).map Occurrence.token))
    (finite : ∀ earlier ∈ front, earlier.token.isInfinite = false)
    (infinite : here.token.isInfinite = true) :
    ofTokens (front ++ here :: rest) = .error (.outOfRange here.lexeme here.position) := by
  have run := derived.run_zeroed
  rw [← Occurrence.map_token_zeroed] at run
  have framed := (framed_of_run run).of_zeroed
  have found : (front ++ here :: rest)[front.length]? = some here := by
    rw [List.getElem?_append_right (Nat.le_refl _), Nat.sub_self, List.getElem?_cons_zero]
  have clean : CleanBefore (front ++ here :: rest) front.length := by
    intro earlier before violation breach
    obtain ⟨other, same, overflow⟩ := infinite_of_breach derived breach
    rw [List.getElem?_append_left before] at same
    rw [finite other (List.mem_of_getElem? same)] at overflow
    cases overflow
  have reported : here.symbol = .error (.outOfRange here.lexeme here.position) := by
    cases kind : here.token with
    | number value => simp_all [Occurrence.symbol, Token.isInfinite]
    | cell | operator | leftParen | rightParen | unrecognized => simp [kind, Token.isInfinite] at infinite
  exact (verdict_of_framed framed).eq_of_foremost clean (foremost_of_symbol found reported)

end Formula

/-- A literal is rounded to infinity from `2 ^ 1024 - 2 ^ 970` on. -/
theorem Literal.isInfinite_value_iff {literal : Literal} (formed : literal.WellFormed) :
    (Token.number literal.value).isInfinite = true ↔ 2 ^ 1024 - 2 ^ 970 ≤ literal.exact := by
  have rounds := rounds_value formed
  constructor
  · intro infinite
    by_contra small
    simp [Token.isInfinite, rounds.finite (not_le.mp small)] at infinite
  · intro large
    rw [rounds.overflow large]
    decide +kernel

/-- A number in a text: what stands in front of it there, and how it is written. -/
structure Numeral where
  front : List Char
  literal : Literal

namespace Numeral

/-- The number is at least the midpoint between the largest finite number and the next power
of two. -/
def Overflows (numeral : Numeral) : Prop := 2 ^ 1024 - 2 ^ 970 ≤ numeral.literal.exact

/-- The token that the number is scanned as. -/
def occurrence (numeral : Numeral) : Occurrence :=
  ⟨.number numeral.literal.value, String.ofList numeral.literal.text, .behind numeral.front⟩

end Numeral

/-- The grammar of formulas over characters with numbers of any size. The text stands behind
a given one, and its numbers are told in order. -/
inductive Grammar.Writes : Category → List Char → List Char → List Numeral → Prop where
  | expression (before : Blanks w) (operand : Writes .atom (u ++ w) a first) (behind : Blanks w')
      (more : Writes .continuation (u ++ w ++ a ++ w') t others) :
      Writes .expression u (w ++ a ++ w' ++ t) (first ++ others)
  | nothing : Writes .continuation u [] []
  | operation (op : Operator) (before : Blanks w)
      (operand : Writes .atom (u ++ [op.char] ++ w) a first) (behind : Blanks w')
      (more : Writes .continuation (u ++ [op.char] ++ w ++ a ++ w') t others) :
      Writes .continuation u (op.char :: (w ++ a ++ w' ++ t)) (first ++ others)
  | number {literal : Literal} (formed : literal.WellFormed) :
      Writes .atom u literal.text [⟨u, literal⟩]
  | cell (named : CellName.IsName name) : Writes .atom u name []
  | parentheses (inner : Writes .expression (u ++ ['(']) e numerals) :
      Writes .atom u ('(' :: (e ++ [')'])) numerals

namespace Grammar.Writes

theorem wellFormed (written : Writes category u s numerals) :
    ∀ numeral ∈ numerals, numeral.literal.WellFormed := by
  induction written with
  | expression _ _ _ _ operand more | operation _ _ _ _ _ operand more =>
    intro numeral member
    rcases List.mem_append.mp member with first | second
    · exact operand numeral first
    · exact more numeral second
  | nothing | cell => simp
  | number formed => simpa using formed
  | parentheses _ inner => exact inner

theorem none_overflows_append {first others : List Numeral} :
    (∀ numeral ∈ first ++ others, ¬numeral.Overflows) ↔
      (∀ numeral ∈ first, ¬numeral.Overflows) ∧ ∀ numeral ∈ others, ¬numeral.Overflows := by
  simp only [List.mem_append, or_imp, forall_and]

/-- Without overflow this is the grammar of formulas. -/
theorem derivesText (written : Writes category u s numerals)
    (none : ∀ numeral ∈ numerals, ¬numeral.Overflows) : DerivesText category s := by
  induction written with
  | expression before _ behind _ operand more =>
    obtain ⟨first, others⟩ := none_overflows_append.mp none
    exact .expression before (operand first) behind (more others)
  | nothing => exact .nothing
  | operation op before _ behind _ operand more =>
    obtain ⟨first, others⟩ := none_overflows_append.mp none
    exact .operation op before (operand first) behind (more others)
  | @number u literal formed =>
    have rounds := Literal.rounds_value formed
    have small : ¬Numeral.Overflows ⟨u, literal⟩ := none _ List.mem_cons_self
    exact .number formed rounds (rounds.finite (not_le.mp small))
  | cell named => exact .cell named
  | parentheses _ inner => exact .parentheses (inner none)

end Grammar.Writes

theorem Grammar.DerivesText.exists_writes (derived : DerivesText category s) (u : List Char) :
    ∃ numerals, Writes category u s numerals ∧ ∀ numeral ∈ numerals, ¬numeral.Overflows := by
  induction derived generalizing u with
  | @expression w a w' t before _ behind _ operand more =>
    obtain ⟨first, written, none⟩ := operand (u ++ w)
    obtain ⟨others, written', none'⟩ := more (u ++ w ++ a ++ w')
    exact ⟨_, .expression before written behind written', Writes.none_overflows_append.mpr ⟨none, none'⟩⟩
  | nothing => exact ⟨[], .nothing, by simp⟩
  | @operation w a w' t op before _ behind _ operand more =>
    obtain ⟨first, written, none⟩ := operand (u ++ [op.char] ++ w)
    obtain ⟨others, written', none'⟩ := more (u ++ [op.char] ++ w ++ a ++ w')
    exact ⟨_, .operation op before written behind written',
      Writes.none_overflows_append.mpr ⟨none, none'⟩⟩
  | @number value literal formed rounds finite =>
    refine ⟨_, .number formed, fun numeral member overflows => ?_⟩
    rw [List.mem_singleton.mp member] at overflows
    rw [rounds.overflow overflows] at finite
    exact absurd finite (by decide +kernel)
  | cell named => exact ⟨[], .cell named, by simp⟩
  | parentheses _ inner =>
    obtain ⟨numerals, written, none⟩ := inner (u ++ ['('])
    exact ⟨numerals, .parentheses written, none⟩

/-- Texts of formulas are those that are written with numbers in range, wherever they stand. -/
theorem Grammar.derivesText_iff_exists_writes (u : List Char) : DerivesText category s ↔
    ∃ numerals, Writes category u s numerals ∧ ∀ numeral ∈ numerals, ¬numeral.Overflows := by
  constructor
  · intro derived
    exact derived.exists_writes u
  · rintro ⟨numerals, written, none⟩
    exact written.derivesText none

namespace Grammar.Writes

private theorem placed_operand (before : Blanks w) (operand : Placed (.behind (u ++ w)) front a)
    (behind : Blanks w') (more : Placed (.behind (u ++ w ++ a ++ w')) back t) :
    Placed (.behind u) (front ++ back) (w ++ a ++ w' ++ t) := by
  simp only [← Position.advance_behind] at operand more
  rw [List.append_assoc, List.append_assoc]
  exact (operand.append (more.blanks_append behind)).blanks_append before

/-- What is written is laid out as the tokens of an expression, its numbers among them. -/
theorem exists_placed (written : Writes category u s numerals) : ∃ tokens,
    Placed (.behind u) tokens s ∧ Derives category (tokens.map Occurrence.token) ∧
    tokens.filter (fun here => here.token.isNumber) = numerals.map Numeral.occurrence := by
  induction written with
  | expression before _ behind _ operand more =>
    obtain ⟨front, placed, derived, told⟩ := operand
    obtain ⟨back, placed', derived', told'⟩ := more
    refine ⟨front ++ back, placed_operand before placed behind placed', ?_, ?_⟩
    · rw [List.map_append]
      exact .expression derived derived'
    · rw [List.filter_append, told, told', List.map_append]
  | nothing => exact ⟨[], .done blanks_nil, .nothing, rfl⟩
  | @operation w u a first w' t others op before _ behind _ operand more =>
    obtain ⟨front, placed, derived, told⟩ := operand
    obtain ⟨back, placed', derived', told'⟩ := more
    have rest := placed_operand before placed behind placed'
    rw [← Position.advance_behind] at rest
    have sign : Token.Spelled (.operator op) [op.char] := .operator
    refine ⟨_, (Placed.single (.behind u) sign).append rest, ?_, ?_⟩
    · rw [List.map_append, List.map_append, List.map_singleton, List.singleton_append]
      exact .operation op derived derived'
    · rw [List.filter_append, List.filter_append, told, told', List.map_append]
      rfl
  | number formed =>
    exact ⟨_, .single _ (.number formed), .number _, rfl⟩
  | cell named => exact ⟨_, .single _ (.cell named), .cell _, rfl⟩
  | @parentheses u e numerals _ inner =>
    obtain ⟨tokens, placed, derived, told⟩ := inner
    rw [← Position.advance_behind] at placed
    have opened := (Placed.single (.behind u) .leftParen).append placed
    refine ⟨_, opened.append (.single _ .rightParen), ?_, ?_⟩
    · rw [List.map_append, List.map_append]
      exact .parentheses derived
    · rw [List.filter_append, List.filter_append, told]
      simp [Token.isNumber]

variable {text : String}

/-- The scanned tokens are those of an expression, and its numbers are the written ones. -/
theorem scan_eq (written : Writes .expression [] text.toList numerals) :
    Derives .expression ((scan text).map Occurrence.token) ∧
    (scan text).filter (fun here => here.token.isNumber) = numerals.map Numeral.occurrence := by
  obtain ⟨tokens, placed, derived, told⟩ := written.exists_placed
  have trace : ScanTrace .start text.toList tokens := placed.trace derived.apart
  have found : scan text = tokens := by rw [scan, Cursor.ofText, trace.drain_eq]
  rw [found]
  exact ⟨derived, told⟩

theorem isInfinite_iff (written : Writes category u s numerals) (member : numeral ∈ numerals) :
    numeral.occurrence.token.isInfinite = true ↔ numeral.Overflows :=
  Literal.isInfinite_value_iff (written.wellFormed numeral member)

theorem occurrence_mem (written : Writes .expression [] text.toList numerals)
    (member : numeral ∈ numerals) : numeral.occurrence ∈ scan text := by
  have among := List.mem_map_of_mem (f := Numeral.occurrence) member
  rw [← written.scan_eq.2] at among
  exact List.mem_of_mem_filter among

/-- The first infinite number that is scanned is the leftmost one that overflows. -/
theorem exists_leftmost (written : Writes .expression [] text.toList numerals)
    (parts : scan text = front ++ here :: rest) (infinite : here.token.isInfinite = true)
    (finite : ∀ earlier ∈ front, earlier.token.isInfinite = false) :
    ∃ numeral ∈ numerals, numeral.occurrence = here ∧ numeral.Overflows ∧
      ∀ other ∈ numerals, other.Overflows → numeral.front.length ≤ other.front.length := by
  have among : here ∈ (scan text).filter (fun here => here.token.isNumber) :=
    List.mem_filter.mpr ⟨by simp [parts], Token.isNumber_of_isInfinite infinite⟩
  rw [written.scan_eq.2] at among
  obtain ⟨numeral, member, rfl⟩ := List.mem_map.mp among
  refine ⟨numeral, member, rfl, (written.isInfinite_iff member).mp infinite, ?_⟩
  intro other inside overflows
  have trace := ScanTrace.of_scan text
  have scanned := written.occurrence_mem inside
  rw [parts] at trace scanned
  rcases List.mem_append.mp scanned with earlier | later
  · have large := (written.isInfinite_iff inside).mpr overflows
    rw [finite _ earlier] at large
    cases large
  · exact trace.offset_le_of_mem later

end Grammar.Writes

namespace Formula

/-- Either no number in an expression is infinite and it is read, or the first one is reported. -/
theorem ofTokens_of_derives (derived : Derives .expression (tokens.map Occurrence.token)) :
    ((∀ here ∈ tokens, here.token.isInfinite = false) ∧ ∃ formula, ofTokens tokens = .ok formula) ∨
    ∃ front here rest, tokens = front ++ here :: rest ∧ here.token.isInfinite = true ∧
      (∀ earlier ∈ front, earlier.token.isInfinite = false) ∧
      ofTokens tokens = .error (.outOfRange here.lexeme here.position) := by
  cases first : tokens.find? (fun here => here.token.isInfinite) with
  | none =>
    have none : ∀ here ∈ tokens, here.token.isInfinite = false := by
      intro here member
      exact Bool.eq_false_iff.mpr (List.find?_eq_none.mp first here member)
    have finite : FiniteNumbers (tokens.map Occurrence.token) :=
      finiteNumbers_iff.mpr (by simpa using none)
    exact .inl ⟨none, exists_ofTokens_iff_run.mpr (run_eq_final_iff.mpr ⟨derived, finite⟩)⟩
  | some here =>
    obtain ⟨infinite, front, rest, rfl, finite⟩ := List.find?_eq_some_iff_append.mp first
    have finite : ∀ earlier ∈ front, earlier.token.isInfinite = false := by simpa using finite
    exact .inr ⟨front, here, rest, rfl, infinite, finite, ofTokens_of_infinite derived finite infinite⟩

/-- A text that would be a formula with numbers of any size is refused just where a number in it
overflows, and then for the leftmost one of these. -/
theorem ofText_refused_iff_overflow {text : String}
    (written : Writes .expression [] text.toList numerals) :
    ((∃ violation, ofText text = .error violation) ↔ ∃ numeral ∈ numerals, numeral.Overflows) ∧
    ∀ violation, ofText text = .error violation → ∃ numeral ∈ numerals, numeral.Overflows ∧
      (∀ other ∈ numerals, other.Overflows → numeral.front.length ≤ other.front.length) ∧
      violation = .outOfRange (String.ofList numeral.literal.text) (.behind numeral.front) := by
  rcases ofTokens_of_derives written.scan_eq.1 with
    ⟨finite, formula, read⟩ | ⟨front, here, rest, parts, infinite, finite, refused⟩
  · have none : ∀ numeral ∈ numerals, ¬numeral.Overflows := by
      intro numeral member overflows
      have infinite := (written.isInfinite_iff member).mpr overflows
      rw [finite _ (written.occurrence_mem member)] at infinite
      cases infinite
    have accepted : ∀ violation, ofText text ≠ .error violation := by
      intro violation refused
      cases read.symm.trans refused
    refine ⟨iff_of_false ?_ ?_, fun violation refused => absurd refused (accepted violation)⟩
    · exact fun ⟨violation, refused⟩ => accepted violation refused
    · exact fun ⟨numeral, member, overflows⟩ => none numeral member overflows
  · obtain ⟨numeral, member, rfl, overflows, leftmost⟩ := written.exists_leftmost parts infinite finite
    refine ⟨iff_of_true ⟨_, refused⟩ ⟨numeral, member, overflows⟩, fun violation other => ?_⟩
    exact ⟨numeral, member, overflows, leftmost, Except.error.inj (other.symm.trans refused)⟩

/-- Zero has no size, whatever its power; the second number is past the largest finite one. -/
theorem ofText_refused_iff_overflow_second_line : ∃ numerals,
    Writes .expression [] "0e999+\n2e308".toList numerals ∧
    ((∃ violation, ofText "0e999+\n2e308" = .error violation) ↔
      ∃ numeral ∈ numerals, numeral.Overflows) ∧
    ofText "0e999+\n2e308" = .error (.outOfRange "2e308" ⟨2, 1, 7⟩) ∧
    ∃ numeral ∈ numerals, numeral.Overflows ∧ String.ofList numeral.literal.text = "2e308" := by
  have zero : (Literal.read "0e999".toList).1.WellFormed := Literal.wellFormed_read (by decide +kernel)
  have large : (Literal.read "2e308".toList).1.WellFormed := Literal.wellFormed_read (by decide +kernel)
  have feed : Blanks ['\n'] := List.all_eq_true.mp rfl
  have written : Writes .expression [] "0e999+\n2e308".toList
      [⟨[], (Literal.read "0e999".toList).1⟩, ⟨"0e999+\n".toList, (Literal.read "2e308".toList).1⟩] :=
    .expression blanks_nil (.number zero) blanks_nil
      (.operation .plus feed (.number large) blanks_nil .nothing)
  have refused : ofText "0e999+\n2e308" = .error (.outOfRange "2e308" ⟨2, 1, 7⟩) :=
    normalize_eq_error_iff.mp (by decide +kernel)
  obtain ⟨told, points⟩ := ofText_refused_iff_overflow written
  obtain ⟨numeral, member, overflows, _, same⟩ := points _ refused
  exact ⟨_, written, told, refused, numeral, member, overflows,
    (Violation.outOfRange.inj same).1.symm⟩

end Formula

end CellArithmetic
