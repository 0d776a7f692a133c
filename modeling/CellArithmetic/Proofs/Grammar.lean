import CellArithmetic.Token

/-! The grammar of formulas over tokens, and the same language read from left to right.
Reading keeps a count of the open parentheses and whether an operand or an operator is
expected; that is enough to find every matching parenthesis again. -/
namespace CellArithmetic.Grammar

/-- `expression` is one atom and its continuation: operators, each with an atom. -/
inductive Category where
  | expression | continuation | atom

inductive Derives : Category → List Token → Prop where
  | expression (operand : Derives .atom a) (more : Derives .continuation t) :
      Derives .expression (a ++ t)
  | nothing : Derives .continuation []
  | operation (op : Operator) (operand : Derives .atom a) (more : Derives .continuation t) :
      Derives .continuation (.operator op :: (a ++ t))
  | number (value : Binary64) : Derives .atom [.number value]
  | cell (name : String) : Derives .atom [.cell name]
  | parentheses (inner : Derives .expression e) :
      Derives .atom (.leftParen :: (e ++ [.rightParen]))

inductive Expected where
  | operand | operator
deriving DecidableEq, Repr

/-- What is known of the tokens read so far. -/
structure State where
  depth : Nat
  expected : Expected
deriving DecidableEq, Repr

namespace State

def start : State := ⟨0, .operand⟩

/-- The state in which a formula may end. -/
def final : State := ⟨0, .operator⟩

def step : State → Token → Option State
  | ⟨depth, .operand⟩, .number value => if value.isFinite then some ⟨depth, .operator⟩ else none
  | ⟨depth, .operand⟩, .cell _ => some ⟨depth, .operator⟩
  | ⟨depth, .operand⟩, .leftParen => some ⟨depth + 1, .operand⟩
  | ⟨depth, .operator⟩, .operator _ => some ⟨depth, .operand⟩
  | ⟨depth + 1, .operator⟩, .rightParen => some ⟨depth, .operator⟩
  | _, _ => none

def run (state : State) : List Token → Option State
  | [] => some state
  | token :: rest => (state.step token).bind fun next => next.run rest

@[simp] theorem run_nil (state : State) : state.run [] = some state := rfl

@[simp] theorem run_cons (state : State) (token : Token) (rest : List Token) :
    state.run (token :: rest) = (state.step token).bind fun next => next.run rest := rfl

theorem run_append (state : State) (front rest : List Token) :
    state.run (front ++ rest) = (state.run front).bind fun next => next.run rest := by
  induction front generalizing state with
  | nil => rfl
  | cons token front ih =>
    simp only [List.cons_append, run_cons, Option.bind_assoc]
    exact congrArg _ (funext ih)

end State

def Category.expected : Category → Expected
  | .expression | .atom => .operand
  | .continuation => .operator

def FiniteNumbers (tokens : List Token) : Prop :=
  ∀ value, Token.number value ∈ tokens → value.isFinite = true

theorem finiteNumbers_append :
    FiniteNumbers (front ++ rest) ↔ FiniteNumbers front ∧ FiniteNumbers rest := by
  simp only [FiniteNumbers, List.mem_append, or_imp, forall_and]

theorem finiteNumbers_cons : FiniteNumbers (token :: rest) ↔
    (∀ value, .number value = token → value.isFinite = true) ∧ FiniteNumbers rest := by
  simp only [FiniteNumbers, List.mem_cons, or_imp, forall_and]

theorem finiteNumbers_nil : FiniteNumbers [] := by
  intro value member
  cases member

/-- Whatever is derived is read through at any depth, and the depth is back at its end. -/
theorem Derives.run (derived : Derives category tokens) (finite : FiniteNumbers tokens)
    (depth : Nat) : State.run ⟨depth, category.expected⟩ tokens = some ⟨depth, .operator⟩ := by
  induction derived generalizing depth with
  | expression _ _ operand more =>
    have front := operand (fun value member => finite value (by simp [member])) depth
    have rest := more (fun value member => finite value (by simp [member])) depth
    simp only [Category.expected] at front rest ⊢
    rw [State.run_append, front, Option.bind_some, rest]
  | nothing => rfl
  | operation op _ _ operand more =>
    have front := operand (fun value member => finite value (by simp [member])) depth
    have rest := more (fun value member => finite value (by simp [member])) depth
    simp only [Category.expected] at front rest ⊢
    rw [State.run_cons, State.step, Option.bind_some, State.run_append, front, Option.bind_some, rest]
  | number value => simp [Category.expected, State.step, finite value (by simp)]
  | cell name => simp [Category.expected, State.step]
  | parentheses _ inner =>
    have middle := inner (fun value member => finite value (by simp [member])) (depth + 1)
    simp only [Category.expected] at middle ⊢
    simp [State.step, State.run_append, middle]

/-- The rest of a formula behind an operand that stands inside `depth` parentheses: the
continuation of each open expression, and behind it the parenthesis that closes it. -/
inductive Closes : Nat → List Token → Prop where
  | last (more : Derives .continuation t) : Closes 0 t
  | close (more : Derives .continuation t) (rest : Closes depth s) :
      Closes (depth + 1) (t ++ .rightParen :: s)

theorem Closes.operation (op : Operator) (operand : Derives .atom a) (rest : Closes depth s) :
    Closes depth (.operator op :: (a ++ s)) := by
  cases rest with
  | last more => exact .last (.operation op operand more)
  | close more rest =>
    rw [← List.append_assoc, ← List.cons_append]
    exact .close (.operation op operand more) rest

/-- What may follow in a state so that the formula is complete. -/
def Completes : State → List Token → Prop
  | ⟨depth, .operator⟩, tokens => Closes depth tokens
  | ⟨depth, .operand⟩, tokens => ∃ a s, tokens = a ++ s ∧ Derives .atom a ∧ Closes depth s

/-- Taking back one step: what completes a formula behind a token completes it in front. -/
theorem Completes.step {state next : State} (taken : state.step token = some next)
    (completes : Completes next rest) : Completes state (token :: rest) := by
  unfold State.step at taken
  split at taken
  · split at taken
    · cases taken
      exact ⟨[_], rest, rfl, .number _, completes⟩
    · cases taken
  · cases taken
    exact ⟨[_], rest, rfl, .cell _, completes⟩
  · cases taken
    obtain ⟨a, s, rfl, operand, closes⟩ := completes
    cases closes with
    | close more closes =>
      exact ⟨_, _, by simp, .parentheses (.expression operand more), closes⟩
  · cases taken
    obtain ⟨a, s, rfl, operand, closes⟩ := completes
    exact closes.operation _ operand
  · cases taken
    exact Closes.close .nothing completes
  · cases taken

theorem completes_of_run {state : State} (accepted : state.run tokens = some .final) :
    Completes state tokens := by
  induction tokens generalizing state with
  | nil =>
    cases accepted
    exact Closes.last .nothing
  | cons token rest ih =>
    obtain ⟨next, taken, accepted⟩ := Option.bind_eq_some_iff.mp accepted
    exact (ih accepted).step taken

theorem finite_of_run {state last : State} (accepted : state.run tokens = some last) :
    FiniteNumbers tokens := by
  induction tokens generalizing state with
  | nil => intro value member; cases member
  | cons token rest ih =>
    intro value member
    obtain ⟨next, taken, accepted⟩ := Option.bind_eq_some_iff.mp accepted
    rcases List.mem_cons.mp member with rfl | member
    · rcases state with ⟨depth, _ | _⟩
      · simp only [State.step] at taken
        split at taken
        · assumption
        · cases taken
      · simp [State.step] at taken
    · exact ih accepted value member

/-- Reading accepts exactly the expressions without an infinite number. -/
theorem run_eq_final_iff : State.run .start tokens = some .final ↔
    Derives .expression tokens ∧ FiniteNumbers tokens := by
  constructor
  · intro accepted
    obtain ⟨a, s, rfl, operand, closes⟩ := completes_of_run accepted
    cases closes with
    | last more => exact ⟨.expression operand more, finite_of_run accepted⟩
  · rintro ⟨derived, finite⟩
    exact derived.run finite 0

end CellArithmetic.Grammar
