import Mathlib.Data.List.Basic

/-!
# Machines in operation

A machine passes from state to state, one operation after another. Its course keeps each operation
with the state that it met, and what the machine answers is read off the turns of its course. The
coordinator, its session, and the parts that they are made of are machines of this kind.
-/

namespace Panes

/-- An operation, with the state that it met. -/
structure Turn (State Operation : Type) where
  /-- The state before the operation. -/
  before : State
  /-- The operation. -/
  operation : Operation
  deriving DecidableEq, Repr

/-- The turns of a machine that starts in a state and takes these operations. -/
def course {State Operation : Type} (next : State → Operation → State) :
    State → List Operation → List (Turn State Operation)
  | _, [] => []
  | state, operation :: operations =>
    ⟨state, operation⟩ :: course next (next state operation) operations

section

variable {State Operation Value : Type} {next : State → Operation → State}

theorem course_append (state : State) (earlier later : List Operation) :
    course next state (earlier ++ later) =
      course next state earlier ++ course next (earlier.foldl next state) later := by
  induction earlier generalizing state with
  | nil => rfl
  | cons operation earlier ih =>
    simp only [List.cons_append, course, List.foldl_cons]
    rw [ih]

theorem course_snoc (state : State) (operations : List Operation) (operation : Operation) :
    course next state (operations ++ [operation]) =
      course next state operations ++ [⟨operations.foldl next state, operation⟩] :=
  course_append state operations [operation]

/-- The course keeps the operations. -/
theorem map_operation_course (state : State) (operations : List Operation) :
    (course next state operations).map Turn.operation = operations := by
  induction operations generalizing state with
  | nil => rfl
  | cons operation operations ih => exact congrArg (operation :: ·) (ih _)

/-- What is read off the operations alone does not depend on the states that they met. -/
theorem filterMap_course (read : Operation → Option Value) (state : State)
    (operations : List Operation) :
    (course next state operations).filterMap (read ·.operation) = operations.filterMap read := by
  have kept : (course next state operations).map Turn.operation = operations :=
    map_operation_course state operations
  conv_rhs => rw [← kept, List.filterMap_map]
  rfl

/-! ## Invariants -/

section

variable (invariant : State → Prop) {state : State} (start : invariant state)
  (kept : ∀ turn : Turn State Operation,
    invariant turn.before → invariant (next turn.before turn.operation))
include start kept

/-- What holds at the start and is kept by every operation holds throughout. -/
theorem foldl_invariant (operations : List Operation) :
    invariant (operations.foldl next state) := by
  induction operations generalizing state with
  | nil => exact start
  | cons operation operations ih => exact ih (kept ⟨state, operation⟩ start)

/-- Every operation meets what holds throughout. -/
theorem course_invariant (operations : List Operation) :
    ∀ turn ∈ course next state operations, invariant turn.before := by
  induction operations generalizing state with
  | nil =>
    intro turn member
    cases member
  | cons operation operations ih =>
    intro turn member
    rcases List.mem_cons.mp member with rfl | later
    · exact start
    · exact ih (kept ⟨state, operation⟩ start) turn later

end

/-! ## Single turns -/

/-- Each turn of a course divides the operations at its own. -/
theorem course_split {state : State} {operations : List Operation}
    {front back : List (Turn State Operation)} {turn : Turn State Operation}
    (split : course next state operations = front ++ turn :: back) :
    ∃ earlier operation later, operations = earlier ++ operation :: later ∧
      front = course next state earlier ∧ turn = ⟨earlier.foldl next state, operation⟩ := by
  induction front generalizing state operations with
  | nil =>
    cases operations with
    | nil => cases split
    | cons operation operations =>
      obtain ⟨rfl, -⟩ := List.cons.inj split
      exact ⟨[], operation, operations, rfl, rfl, rfl⟩
  | cons first front ih =>
    cases operations with
    | nil => cases split
    | cons operation operations =>
      obtain ⟨rfl, rest⟩ := List.cons.inj split
      obtain ⟨earlier, other, later, rfl, rfl, rfl⟩ := ih rest
      exact ⟨operation :: earlier, other, later, rfl, rfl, rfl⟩

theorem operation_mem_of_course {state : State} {operations : List Operation}
    {turn : Turn State Operation} (member : turn ∈ course next state operations) :
    turn.operation ∈ operations := by
  have image := List.mem_map_of_mem (f := Turn.operation) member
  rwa [map_operation_course] at image

/-! ## Values that are reported -/

/-- A value that each operation either replaces by the one it reports or keeps is the one reported
last. -/
theorem foldl_eq_getLast (value : State → Value) (report : Turn State Operation → Option Value)
    (step : ∀ turn, value (next turn.before turn.operation) =
      (report turn).getD (value turn.before))
    (state : State) (operations : List Operation) :
    value (operations.foldl next state) =
      ((course next state operations).filterMap report).getLast?.getD (value state) := by
  induction operations generalizing state with
  | nil => rfl
  | cons operation operations ih =>
    have first := step ⟨state, operation⟩
    rw [List.foldl_cons, course, ih, first, List.filterMap_cons]
    cases reported : report ⟨state, operation⟩ with
    | none => rfl
    | some value => rw [List.getLast?_cons]; rfl

/-- The value depends on the operations alone if what is reported does. -/
theorem foldl_eq_getLast_read {Item : Type} (value : State → Value) (read : Operation → Option Item)
    (shown : Item → Value)
    (step : ∀ turn : Turn State Operation, value (next turn.before turn.operation) =
      ((read turn.operation).map shown).getD (value turn.before))
    (state : State) (operations : List Operation) :
    value (operations.foldl next state) =
      ((operations.filterMap read).getLast?.map shown).getD (value state) := by
  rw [foldl_eq_getLast value (fun turn => (read turn.operation).map shown) step,
    filterMap_course fun operation => (read operation).map shown, ← List.map_filterMap,
    List.getLast?_map]

end

end Panes
