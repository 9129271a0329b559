import Panes.Action

/-!
# Tasks that are put off

The scheduler has a clock of its own, which only moves when it is told to. Tasks wait in the order
in which they come due, and in the order in which they were put off when they come due together.
Times are in nanoseconds and stop at the greatest one.
-/

namespace Panes

/-- A task, and when it comes due. -/
structure Scheduler.Entry where
  /-- When the task comes due. -/
  due : Nat
  /-- The task. -/
  task : ScheduledTask
  deriving DecidableEq, Repr

/-- The tasks that are put off. -/
structure Scheduler where
  /-- The time on the clock. -/
  now : Nat
  /-- The waiting tasks, the next one first. -/
  queue : List Scheduler.Entry
  deriving DecidableEq, Repr

namespace Scheduler

/-- The greatest time: the greatest number of seconds of 64 bits, and all nanoseconds of a
second. -/
def latest : Nat := 0x10000000000000000 * 1000000000 - 1

/-- How many nanoseconds make a millisecond. -/
def millisecond : Nat := 1000000

/-- A time after another one, not later than the greatest. -/
def after (time elapsed : Nat) : Nat := min latest (time + elapsed)

theorem latest_eq : latest = 0xffffffffffffffff * 1000000000 + 999999999 := rfl

theorem thousand_milliseconds : 1000 * millisecond = 1000000000 := rfl

theorem after_of_le {time elapsed : Nat} (early : time + elapsed ≤ latest) :
    after time elapsed = time + elapsed :=
  Nat.min_eq_right early

theorem after_of_ge {time elapsed : Nat} (late : latest ≤ time + elapsed) :
    after time elapsed = latest :=
  Nat.min_eq_left late

/-- The clock moved in between makes nothing come due earlier. -/
theorem after_le_after_after (time elapsed delay : Nat) :
    after time delay ≤ after (after time elapsed) delay := by
  unfold after
  omega

theorem after_le_latest (time elapsed : Nat) : after time elapsed ≤ latest := Nat.min_le_left ..

/-- The clock never goes back. -/
theorem le_after {time : Nat} (early : time ≤ latest) (elapsed : Nat) : time ≤ after time elapsed :=
  Nat.le_min.mpr ⟨early, Nat.le_add_right ..⟩

/-- Times add up in any grouping, as all that is too late is the greatest time. -/
theorem after_after (time first second : Nat) :
    after (after time first) second = after time (after first second) := by
  unfold after
  omega

/-- The clock has not moved, and nothing waits. -/
def initial : Scheduler := ⟨0, []⟩

/-- How many tasks wait. -/
def pending (scheduler : Scheduler) : Nat := scheduler.queue.length

/-- Put an entry behind all that come due no later. -/
def enqueue (entry : Entry) : List Entry → List Entry
  | [] => [entry]
  | head :: tail =>
    if entry.due < head.due then entry :: head :: tail else head :: enqueue entry tail

/-- Put a task off for some time. -/
def schedule (scheduler : Scheduler) (delay : Nat) (task : ScheduledTask) : Scheduler :=
  { scheduler with queue := enqueue ⟨after scheduler.now delay, task⟩ scheduler.queue }

/-- Move the clock, and take out the tasks that came due. -/
def advance (scheduler : Scheduler) (elapsed : Nat) : Scheduler × List ScheduledTask :=
  let now := after scheduler.now elapsed
  (⟨now, scheduler.queue.dropWhile (·.due ≤ now)⟩,
    (scheduler.queue.takeWhile (·.due ≤ now)).map Entry.task)

end Scheduler

end Panes
