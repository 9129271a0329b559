import Panes.Proofs.Surface.History

/-!
# Surfaces in any order of operations

The controller on its own may be asked for anything in any order. Whatever comes, a surface is open
from its start until the first report of its close or the next reset. The report that ends this time
is answered with the tag of the start, and says whether the surface was asked to close meanwhile;
every other report changes nothing.
-/

namespace Panes.Surface

/-- What the controller can be asked for. -/
inductive Operation
  /-- Follow the number of selected entries. -/
  | update (count : Nat) (descriptor : Descriptor)
  /-- Ask the shown surface to close. -/
  | finish
  /-- Take the report that a surface closed. -/
  | closed (surface : Id)
  /-- Forget every surface. -/
  | reset
  deriving DecidableEq, Repr

namespace Operation

/-- Carry out an operation: the controller that it leaves, and the command to the host. -/
def perform (controller : Controller) : Operation → Controller × Option Command
  | update count descriptor => controller.update count descriptor
  | finish => controller.finish
  | closed surface => ((controller.closed surface).1, none)
  | reset => (controller.reset, none)

/-- The operation ends the time in which a surface is open. -/
def ends (surface : Id) : Operation → Bool
  | closed other => other == surface
  | reset => true
  | _ => false

/-- An effect of the coordinator that does to the surfaces what the operation may do. -/
def effect : Operation → Effect
  | update _ _ | finish => .finish
  | closed surface => .close surface
  | reset => .tearDown

theorem ends_iff {surface : Id} {operation : Operation} :
    operation.ends surface = true ↔
      operation.effect = .close surface ∨ operation.effect = .tearDown := by
  cases operation <;> simp [ends, effect]

theorem surfaceStep (controller : Controller) (operation : Operation) :
    SurfaceStep controller operation.effect (operation.perform controller).1
      (operation.perform controller).2 := by
  cases operation with
  | update count descriptor => exact .update controller rfl count descriptor
  | finish => exact .finish rfl
  | closed surface => exact .close surface
  | reset => exact .tearDown

end Operation

/-- An operation, with the controller that it met. -/
abbrev Turn := Panes.Turn Controller Operation

namespace Turn

/-- The controller after the operation. -/
def after (turn : Turn) : Controller := (turn.operation.perform turn.before).1

/-- The command that the host gets. -/
def command? (turn : Turn) : Option Command := (turn.operation.perform turn.before).2

theorem surfaceStep (turn : Turn) :
    SurfaceStep turn.before turn.operation.effect turn.after turn.command? :=
  turn.operation.surfaceStep turn.before

end Turn

namespace Controller

/-- The controller after an operation. -/
def next (controller : Controller) (operation : Operation) : Controller :=
  (operation.perform controller).1

/-- The controller after some operations, one after another. -/
def run (operations : List Operation) : Controller := operations.foldl next initial

/-- The turns of these operations, in order. -/
def history (operations : List Operation) : List Turn := course next initial operations

theorem run_snoc (operations : List Operation) (operation : Operation) :
    run (operations ++ [operation]) = Turn.after ⟨run operations, operation⟩ :=
  List.foldl_concat ..

theorem history_snoc (operations : List Operation) (operation : Operation) :
    history (operations ++ [operation]) = history operations ++ [⟨run operations, operation⟩] :=
  course_snoc initial operations operation

theorem orderly_run (operations : List Operation) : (run operations).Orderly := by
  induction operations using List.reverseRecOn with
  | nil => exact orderly_initial
  | append_singleton operations operation ih =>
    rw [run_snoc]
    exact (operation.surfaceStep _).orderly ih

end Controller

/-- The surface was started with the descriptor, then came these turns, and none of them reported
its close or forgot it. -/
def OpenSince (log : List Turn) (surface : Id) (descriptor : Descriptor) (since : List Turn) :
    Prop :=
  SinceWith (fun turn => turn.command? = some (.start surface descriptor))
    (fun turn => turn.operation.ends surface = true) log since

theorem openSince_snoc {log since : List Turn} {newest : Turn} {surface : Id}
    {descriptor : Descriptor} :
    OpenSince (log ++ [newest]) surface descriptor since ↔
      (newest.command? = some (.start surface descriptor) ∧ since = []) ∨
        ¬ newest.operation.ends surface = true ∧
          ∃ before, since = before ++ [newest] ∧ OpenSince log surface descriptor before :=
  sinceWith_snoc

namespace Controller

/-- A tracked surface is open, with the tag of its start. -/
theorem openSince_of_tracked {operations : List Operation} {surface : Id} {tag : Option Tag}
    (tracked : (surface, tag) ∈ (run operations).tracked) :
    ∃ descriptor since, OpenSince (history operations) surface descriptor since ∧
      descriptor.tag = tag := by
  induction operations using List.reverseRecOn with
  | nil => cases tracked
  | append_singleton operations operation ih =>
    let newest : Turn := ⟨run operations, operation⟩
    rw [run_snoc, newest.surfaceStep.mem_tracked_iff (orderly_run operations),
      ← Operation.ends_iff] at tracked
    rw [history_snoc]
    rcases tracked with ⟨descriptor, started, tag_eq⟩ | ⟨own, older⟩
    · exact ⟨descriptor, [], openSince_snoc.mpr (.inl ⟨started, rfl⟩), tag_eq⟩
    · obtain ⟨descriptor, since, since_open, tag_eq⟩ := ih older
      exact ⟨descriptor, since ++ [newest],
        openSince_snoc.mpr (.inr ⟨own, since, rfl, since_open⟩), tag_eq⟩

/-- An open surface is tracked with the tag of its start, it is shown exactly if it was not asked to
close meanwhile, and its number is taken. -/
theorem tracked_of_openSince {operations : List Operation} {surface : Id}
    {descriptor : Descriptor} {since : List Turn}
    (since_open : OpenSince (history operations) surface descriptor since) :
    (surface, descriptor.tag) ∈ (run operations).tracked ∧
      surface.number < (run operations).nextNumber ∧
        ((run operations).activeSurface? = some surface ↔
          ∀ turn ∈ since, turn.command? ≠ some (.finish surface)) := by
  induction operations using List.reverseRecOn generalizing since with
  | nil =>
    obtain ⟨earlier, turn, split, -⟩ := since_open
    simp [history, course] at split
  | append_singleton operations operation ih =>
    let newest : Turn := ⟨run operations, operation⟩
    have orderly := orderly_run operations
    have step := newest.surfaceStep
    rw [history_snoc, openSince_snoc] at since_open
    rw [run_snoc, step.mem_tracked_iff orderly, step.activeSurface?_eq_some_iff orderly,
      ← Operation.ends_iff]
    rcases since_open with ⟨started, rfl⟩ | ⟨own, before, rfl, before_open⟩
    · exact ⟨.inl ⟨descriptor, started, rfl⟩, (step.number_of_start started).2,
        iff_of_true (.inl ⟨descriptor, started⟩) (List.forall_mem_nil _)⟩
    · obtain ⟨tracked, number_lt, shown_iff⟩ := ih before_open
      -- The number is taken, so the surface is not started again.
      have fresh : ∀ other, newest.command? ≠ some (.start surface other) := by
        intro other started
        exact Nat.lt_irrefl _ (Nat.lt_of_lt_of_le number_lt (step.number_of_start started).1)
      refine ⟨.inr ⟨own, tracked⟩, Nat.lt_of_lt_of_le number_lt step.nextNumber_le, ?_⟩
      have shown_before : newest.before.activeSurface? = some surface ↔
          ∀ turn ∈ before, turn.command? ≠ some (.finish surface) := shown_iff
      rw [shown_before, List.forall_mem_append, List.forall_mem_singleton]
      constructor
      · rintro (⟨other, started⟩ | ⟨-, unfinished, standing⟩)
        · exact absurd started (fresh other)
        · exact ⟨standing, unfinished⟩
      · rintro ⟨standing, unfinished⟩
        exact .inr ⟨own, unfinished, standing⟩

/-- The report on a surface is answered exactly if the surface is open. The answer has the tag of
the start, and it says that the user dismissed the surface if no command asked it to close since,
whatever was asked for in between. Every other report changes nothing, and no report takes away a
shown surface that it does not name. -/
theorem closed_answers_open (operations : List Operation) (surface : Id) :
    let controller := run operations
    (∀ answer, (controller.closed surface).2 = some answer ↔
      ∃ descriptor since, OpenSince (history operations) surface descriptor since ∧
        answer =
          ⟨surface, descriptor.tag, !since.any (·.command? == some (.finish surface))⟩) ∧
    (controller.closed surface = (controller, none) ↔
      ∀ descriptor since, ¬ OpenSince (history operations) surface descriptor since) ∧
    (controller.closed surface).1.activeSurface? =
      if controller.activeSurface? = some surface then none else controller.activeSurface? := by
  intro controller
  have orderly : controller.Orderly := orderly_run operations
  have dismissed_eq {descriptor : Descriptor} {since : List Turn}
      (since_open : OpenSince (history operations) surface descriptor since) :
      decide (controller.activeSurface? = some surface) =
        !since.any (·.command? == some (.finish surface)) := by
    rw [Bool.eq_iff_iff, decide_eq_true_iff, (tracked_of_openSince since_open).2.2]
    simp
  have answered : ∀ answer, (controller.closed surface).2 = some answer ↔
      ∃ descriptor since, OpenSince (history operations) surface descriptor since ∧
        answer =
          ⟨surface, descriptor.tag, !since.any (·.command? == some (.finish surface))⟩ := by
    intro answer
    rw [closed_eq_some_iff orderly]
    constructor
    · rintro ⟨tag, tracked, rfl⟩
      obtain ⟨descriptor, since, since_open, rfl⟩ := openSince_of_tracked tracked
      exact ⟨descriptor, since, since_open, by rw [dismissed_eq since_open]⟩
    · rintro ⟨descriptor, since, since_open, rfl⟩
      exact ⟨descriptor.tag, (tracked_of_openSince since_open).1, by rw [dismissed_eq since_open]⟩
  refine ⟨answered, ?_, activeSurface?_closed orderly surface⟩
  constructor
  · intro unchanged descriptor since since_open
    have answer := (answered _).mpr ⟨descriptor, since, since_open, rfl⟩
    rw [unchanged] at answer
    cases answer
  · intro never
    apply closed_of_untracked
    rintro ⟨_, tag⟩ tracked rfl
    obtain ⟨descriptor, since, since_open, -⟩ := openSince_of_tracked tracked
    exact never descriptor since since_open

end Controller

end Panes.Surface
