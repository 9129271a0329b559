import Panes.Proofs.Scheduler
import Panes.Proofs.Turn
import Mathlib.Data.List.Induction

/-!
# Tasks come back on time

Whatever is asked of a scheduler, each task that was put off comes back once: at the first move of
the clock that shows its due time, and in the order in which tasks come due. `Ledger` holds all
tasks that were put off in that order and divides them into those that came back and those that
wait. Putting a task off enters it behind the division, and a move of the clock only moves the
division on.
-/

namespace Panes.Scheduler

/-- What a scheduler can be asked for. -/
inductive Operation
  /-- Put a task off for some time. -/
  | schedule (delay : Nat) (task : ScheduledTask)
  /-- Move the clock. -/
  | advance (elapsed : Nat)
  deriving DecidableEq, Repr

/-- Carry out an operation: the scheduler that it leaves, and the tasks that come back. -/
def Operation.perform (scheduler : Scheduler) : Operation → Scheduler × List ScheduledTask
  | schedule delay task => (scheduler.schedule delay task, [])
  | advance elapsed => scheduler.advance elapsed

/-- The scheduler after an operation. -/
def next (scheduler : Scheduler) (operation : Operation) : Scheduler :=
  (operation.perform scheduler).1

/-- The tasks that come back at a turn. -/
def returned (turn : Turn Scheduler Operation) : List ScheduledTask :=
  (turn.operation.perform turn.before).2

/-- The clock is moved, and shows at least the given time then. -/
def reaches (turn : Turn Scheduler Operation) (time : Nat) : Bool :=
  match turn.operation with
  | .schedule _ _ => false
  | .advance _ => time ≤ (next turn.before turn.operation).now

/-! ## Bookings -/

/-- A task that was put off. -/
structure Booking where
  /-- How many operations there were before it was put off. -/
  number : Nat
  /-- When it comes due. -/
  due : Nat
  /-- The task. -/
  task : ScheduledTask
  deriving DecidableEq, Repr

/-- The task that is put off at a turn, given how many turns there were before. -/
def booking? (turn : Turn Scheduler Operation) (number : Nat) : Option Booking :=
  match turn.operation with
  | .schedule delay task => some ⟨number, after turn.before.now delay, task⟩
  | .advance _ => none

/-- The tasks that were put off in the course of these turns. -/
def bookings (turns : List (Turn Scheduler Operation)) : List Booking :=
  turns.zipIdx.filterMap fun place => booking? place.1 place.2

namespace Booking

/-- The entry in the queue. -/
def entry (booking : Booking) : Entry := ⟨booking.due, booking.task⟩

/-- The clock was moved to the due time after the task was put off. -/
def reached (turns : List (Turn Scheduler Operation)) (booking : Booking) : Bool :=
  (turns.drop (booking.number + 1)).any fun turn => reaches turn booking.due

/-- One task comes due before another, or they come due together and it was put off before. -/
def Before (first second : Booking) : Prop :=
  first.due < second.due ∨ first.due = second.due ∧ first.number < second.number

theorem Before.due_le {first second : Booking} (before : first.Before second) :
    first.due ≤ second.due := by
  rcases before with sooner | ⟨together, -⟩
  · exact Nat.le_of_lt sooner
  · exact Nat.le_of_eq together

/-- What was put off earlier comes before all that does not come due before it. -/
theorem before_of_number {first second : Booking} (due : first.due ≤ second.due)
    (number : first.number < second.number) : first.Before second := by
  rcases Nat.lt_or_eq_of_le due with sooner | together
  · exact .inl sooner
  · exact .inr ⟨together, number⟩

/-- Any time divides what is in order: what comes due by then is at the front. -/
theorem exists_division {bookings : List Booking} (ordered : bookings.Pairwise Before)
    (time : Nat) :
    ∃ front back, bookings = front ++ back ∧ (∀ booking ∈ front, booking.due ≤ time) ∧
      ∀ booking ∈ back, time < booking.due := by
  induction bookings with
  | nil => exact ⟨[], [], rfl, List.forall_mem_nil _, List.forall_mem_nil _⟩
  | cons first bookings ih =>
    obtain ⟨first_before, rest_ordered⟩ := List.pairwise_cons.mp ordered
    by_cases due : first.due ≤ time
    · obtain ⟨front, back, rfl, front_due, back_later⟩ := ih rest_ordered
      exact ⟨first :: front, back, rfl, List.forall_mem_cons.mpr ⟨due, front_due⟩, back_later⟩
    · have first_later : time < first.due := Nat.lt_of_not_le due
      refine ⟨[], first :: bookings, rfl, List.forall_mem_nil _,
        List.forall_mem_cons.mpr ⟨first_later, ?_⟩⟩
      intro booking member
      exact Nat.lt_of_lt_of_le first_later (first_before booking member).due_le

end Booking

theorem pairwise_insert {α : Type} {related : α → α → Prop} {front back : List α} {item : α}
    (ordered : (front ++ back).Pairwise related) (before : ∀ other ∈ front, related other item)
    (behind : ∀ other ∈ back, related item other) :
    (front ++ item :: back).Pairwise related := by
  obtain ⟨front_ordered, back_ordered, across⟩ := List.pairwise_append.mp ordered
  refine List.pairwise_append.mpr
    ⟨front_ordered, List.pairwise_cons.mpr ⟨behind, back_ordered⟩, ?_⟩
  intro first first_mem second second_mem
  rcases List.mem_cons.mp second_mem with rfl | later
  · exact before first first_mem
  · exact across first first_mem second later

theorem filter_front {α : Type} {pick : α → Bool} {front back : List α}
    (picked : ∀ item ∈ front, pick item = true) (left : ∀ item ∈ back, pick item = false) :
    (front ++ back).filter pick = front := by
  have none_left : back.filter pick = [] := by
    rw [List.filter_eq_nil_iff]
    intro item member
    rw [left item member]
    exact Bool.false_ne_true
  rw [List.filter_append, List.filter_eq_self.mpr picked, none_left, List.append_nil]

/-- The tasks are those of the bookings, each once, in the order in which they come due. -/
def InOrder (tasks : List ScheduledTask) (bookings : List Booking) : Prop :=
  ∃ ordered : List Booking,
    ordered.Perm bookings ∧ ordered.Pairwise Booking.Before ∧ tasks = ordered.map Booking.task

section

variable {turns : List (Turn Scheduler Operation)} {turn : Turn Scheduler Operation}
  {booking : Booking}

theorem bookings_snoc :
    bookings (turns ++ [turn]) = bookings turns ++ (booking? turn turns.length).toList := by
  rw [bookings, List.zipIdx_append, List.filterMap_append, Nat.zero_add]
  rfl

theorem number_of_booking? {number : Nat} (booked : booking? turn number = some booking) :
    booking.number = number := by
  obtain ⟨before, operation⟩ := turn
  cases operation with
  | schedule delay task =>
    obtain rfl := Option.some.inj booked
    rfl
  | advance elapsed => cases booked

theorem number_lt_of_mem (member : booking ∈ bookings turns) : booking.number < turns.length := by
  obtain ⟨⟨turn, number⟩, place, booked⟩ := List.mem_filterMap.mp member
  rw [number_of_booking? booked]
  exact (List.mem_zipIdx' place).1

theorem reached_snoc (known : booking.number < turns.length) :
    booking.reached (turns ++ [turn]) = (booking.reached turns || reaches turn booking.due) := by
  rw [Booking.reached, List.drop_append_of_le_length known, List.any_append, List.any_cons,
    List.any_nil, Bool.or_false, Booking.reached]

theorem not_reached_of_newest (newest : turns.length ≤ booking.number + 1) :
    booking.reached turns = false := by
  rw [Booking.reached, List.drop_eq_nil_of_le newest, List.any_nil]

end

/-! ## The ledger -/

/-- All that was put off in the course of these turns, in order: first what came back, then what
waits. -/
structure Ledger (turns : List (Turn Scheduler Operation)) (scheduler : Scheduler)
    (fired waiting : List Booking) : Prop where
  /-- What came back comes before what waits, and both are in order. -/
  ordered : (fired ++ waiting).Pairwise Booking.Before
  /-- Nothing is missing, and nothing is there twice. -/
  complete : (fired ++ waiting).Perm (bookings turns)
  /-- The clock reached what came back. -/
  reached : ∀ booking ∈ fired, booking.reached turns = true ∧ booking.due ≤ scheduler.now
  /-- The clock did not reach what waits since that was put off. -/
  unreached : ∀ booking ∈ waiting, booking.reached turns = false
  /-- The queue is what waits. -/
  queue_eq : scheduler.queue = waiting.map Booking.entry
  /-- What came back was returned. -/
  returned_eq : turns.flatMap returned = fired.map Booking.task
  /-- The clock is not past the greatest time. -/
  now_le : scheduler.now ≤ latest

namespace Ledger

variable {turns : List (Turn Scheduler Operation)} {scheduler : Scheduler}
  {fired waiting : List Booking}

theorem number_lt (ledger : Ledger turns scheduler fired waiting) {booking : Booking}
    (member : booking ∈ fired ++ waiting) : booking.number < turns.length :=
  number_lt_of_mem (ledger.complete.subset member)

theorem reached_fired (ledger : Ledger turns scheduler fired waiting)
    (turn : Turn Scheduler Operation) {booking : Booking} (came : booking ∈ fired) :
    booking.reached (turns ++ [turn]) = true := by
  rw [reached_snoc (ledger.number_lt (List.mem_append_left waiting came)),
    (ledger.reached booking came).1, Bool.true_or]

theorem reached_waiting (ledger : Ledger turns scheduler fired waiting)
    (turn : Turn Scheduler Operation) {booking : Booking} (waits : booking ∈ waiting) :
    booking.reached (turns ++ [turn]) = reaches turn booking.due := by
  rw [reached_snoc (ledger.number_lt (List.mem_append_right fired waits)),
    ledger.unreached booking waits, Bool.false_or]

theorem filter_reached (ledger : Ledger turns scheduler fired waiting) :
    fired.Perm ((bookings turns).filter (·.reached turns)) := by
  have divided : (fired ++ waiting).filter (·.reached turns) = fired :=
    filter_front (fun booking came => (ledger.reached booking came).1) ledger.unreached
  exact divided ▸ ledger.complete.filter _

theorem filter_unreached (ledger : Ledger turns scheduler fired waiting) :
    waiting.Perm ((bookings turns).filter (!·.reached turns)) := by
  have divided : (waiting ++ fired).filter (!·.reached turns) = waiting := by
    apply filter_front
    · intro booking waits
      rw [ledger.unreached booking waits]
      rfl
    · intro booking came
      rw [(ledger.reached booking came).1]
      rfl
  exact divided ▸ (List.perm_append_comm.trans ledger.complete).filter _

/-- A time divides what waits: what comes due by then is at the front. -/
theorem divide (ledger : Ledger turns scheduler fired waiting) (time : Nat) :
    ∃ front back, waiting = front ++ back ∧ (∀ booking ∈ front, booking.due ≤ time) ∧
      ∀ booking ∈ back, time < booking.due :=
  Booking.exists_division (List.pairwise_append.mp ledger.ordered).2.1 time

section

variable {front back : List Booking}

theorem queue_append (ledger : Ledger turns scheduler fired (front ++ back)) :
    scheduler.queue = front.map Booking.entry ++ back.map Booking.entry := by
  rw [ledger.queue_eq, List.map_append]

/-- A task that is put off is entered behind the division, between what comes due no later and what
comes due later. -/
theorem schedule (ledger : Ledger turns scheduler fired (front ++ back)) {delay : Nat}
    {task : ScheduledTask}
    (sooner : ∀ booking ∈ front, booking.due ≤ after scheduler.now delay)
    (later : ∀ booking ∈ back, after scheduler.now delay < booking.due) :
    Ledger (turns ++ [⟨scheduler, .schedule delay task⟩]) (scheduler.schedule delay task) fired
      (front ++ ⟨turns.length, after scheduler.now delay, task⟩ :: back) := by
  let newest : Booking := ⟨turns.length, after scheduler.now delay, task⟩
  let turn : Turn Scheduler Operation := ⟨scheduler, .schedule delay task⟩
  have ordered : ((fired ++ front) ++ back).Pairwise Booking.Before := by
    rw [List.append_assoc]
    exact ledger.ordered
  have before_newest (other : Booking) (member : other ∈ fired ++ front) :
      other.Before newest := by
    have due : other.due ≤ newest.due := by
      rcases List.mem_append.mp member with came | waits
      · exact (ledger.reached other came).2.trans (le_after ledger.now_le delay)
      · exact sooner other waits
    have listed : other ∈ fired ++ (front ++ back) := by
      rw [← List.append_assoc]
      exact List.mem_append_left back member
    exact Booking.before_of_number due (ledger.number_lt listed)
  have newest_before (other : Booking) (member : other ∈ back) : newest.Before other :=
    .inl (later other member)
  refine ⟨?_, ?_, ?_, ?_, ?_, ?_, ledger.now_le⟩
  · rw [← List.append_assoc]
    exact pairwise_insert ordered before_newest newest_before
  · have complete : (newest :: (fired ++ (front ++ back))).Perm (bookings turns ++ [newest]) :=
      (ledger.complete.cons newest).trans (List.perm_append_singleton newest _).symm
    rw [← List.append_assoc] at complete ⊢
    rw [bookings_snoc]
    exact List.perm_middle.trans complete
  · intro other came
    exact ⟨ledger.reached_fired turn came, (ledger.reached other came).2⟩
  · intro other member
    rcases List.mem_append.mp member with waits | entered
    · exact ledger.reached_waiting turn (List.mem_append_left back waits)
    · rcases List.mem_cons.mp entered with rfl | waits
      · exact not_reached_of_newest (by rw [List.length_append]; rfl)
      · exact ledger.reached_waiting turn (List.mem_append_right front waits)
  · rw [Scheduler.schedule, ledger.queue_append, enqueue_between, List.map_append, List.map_cons]
    · rfl
    · exact List.forall_mem_map.mpr sooner
    · exact List.forall_mem_map.mpr later
  · rw [List.flatMap_append, ledger.returned_eq]
    exact List.append_nil _

theorem advance_eq (ledger : Ledger turns scheduler fired (front ++ back)) {elapsed : Nat}
    (due : ∀ booking ∈ front, booking.due ≤ after scheduler.now elapsed)
    (later : ∀ booking ∈ back, after scheduler.now elapsed < booking.due) :
    scheduler.advance elapsed =
      (⟨after scheduler.now elapsed, back.map Booking.entry⟩, front.map Booking.task) := by
  rw [advance_between ledger.queue_append (List.forall_mem_map.mpr due)
    (List.forall_mem_map.mpr later), List.map_map]
  rfl

/-- A move of the clock moves the division on to the time that it shows. -/
theorem advance (ledger : Ledger turns scheduler fired (front ++ back)) {elapsed : Nat}
    (due : ∀ booking ∈ front, booking.due ≤ after scheduler.now elapsed)
    (later : ∀ booking ∈ back, after scheduler.now elapsed < booking.due) :
    Ledger (turns ++ [⟨scheduler, .advance elapsed⟩]) (scheduler.advance elapsed).1
      (fired ++ front) back := by
  let turn : Turn Scheduler Operation := ⟨scheduler, .advance elapsed⟩
  have moved := ledger.advance_eq due later
  have returned_eq : returned turn = front.map Booking.task := congrArg Prod.snd moved
  have reaches_eq (time : Nat) : reaches turn time = decide (time ≤ after scheduler.now elapsed) :=
    rfl
  rw [moved]
  refine ⟨?_, ?_, ?_, ?_, rfl, ?_, after_le_latest _ _⟩
  · rw [List.append_assoc]
    exact ledger.ordered
  · rw [List.append_assoc, bookings_snoc]
    exact (List.append_nil _).symm ▸ ledger.complete
  · intro booking member
    rcases List.mem_append.mp member with came | comes
    · have past : booking.due ≤ scheduler.now := (ledger.reached booking came).2
      exact ⟨ledger.reached_fired turn came, past.trans (le_after ledger.now_le elapsed)⟩
    · rw [ledger.reached_waiting turn (List.mem_append_left back comes), reaches_eq]
      exact ⟨decide_eq_true (due booking comes), due booking comes⟩
  · intro booking waits
    rw [ledger.reached_waiting turn (List.mem_append_right front waits), reaches_eq]
    exact decide_eq_false (Nat.not_le.mpr (later booking waits))
  · rw [List.flatMap_append, ledger.returned_eq, List.flatMap_singleton, returned_eq,
      List.map_append]

end

theorem start : Ledger [] initial [] [] where
  ordered := List.Pairwise.nil
  complete := List.Perm.nil
  reached := List.forall_mem_nil _
  unreached := List.forall_mem_nil _
  queue_eq := rfl
  returned_eq := rfl
  now_le := Nat.zero_le _

end Ledger

/-- The scheduler after some operations, one after another. -/
def run (operations : List Operation) : Scheduler := operations.foldl next initial

/-- The turns of these operations. -/
def history (operations : List Operation) : List (Turn Scheduler Operation) :=
  course next initial operations

theorem exists_ledger (operations : List Operation) :
    ∃ fired waiting, Ledger (history operations) (run operations) fired waiting := by
  induction operations using List.reverseRecOn with
  | nil => exact ⟨[], [], .start⟩
  | append_singleton operations operation ih =>
    obtain ⟨fired, waiting, ledger⟩ := ih
    have run_snoc : run (operations ++ [operation]) = next (run operations) operation :=
      List.foldl_concat ..
    rw [run_snoc, history, course_snoc]
    cases operation with
    | schedule delay task =>
      obtain ⟨front, back, rfl, sooner, later⟩ := ledger.divide (after (run operations).now delay)
      exact ⟨_, _, ledger.schedule sooner later⟩
    | advance elapsed =>
      obtain ⟨front, back, rfl, due, later⟩ := ledger.divide (after (run operations).now elapsed)
      exact ⟨_, _, ledger.advance due later⟩

/-- Put tasks off and move the clock in any order. Each task that was put off comes back once, at
the first move of the clock after which it shows the due time or a later one; over one move and over
all, the tasks come back by due time, and those due together in the order in which they were put
off. All others wait. -/
theorem tasks_come_back_on_time (operations : List Operation) :
    let turns := history operations
    let scheduler := run operations
    InOrder (turns.flatMap returned) ((bookings turns).filter (·.reached turns)) ∧
      (∀ elapsed,
        let moved := scheduler.advance elapsed
        InOrder moved.2 ((bookings turns).filter fun booking =>
          booking.due ≤ moved.1.now && !booking.reached turns)) ∧
      scheduler.pending = (bookings turns).countP (!·.reached turns) := by
  intro turns scheduler
  obtain ⟨fired, waiting, ledger⟩ := exists_ledger operations
  obtain ⟨fired_ordered, waiting_ordered, -⟩ := List.pairwise_append.mp ledger.ordered
  refine ⟨⟨fired, ledger.filter_reached, fired_ordered, ledger.returned_eq⟩, ?_, ?_⟩
  · intro elapsed moved
    obtain ⟨front, back, rfl, due, later⟩ := ledger.divide (after scheduler.now elapsed)
    have moved_eq : moved = (⟨after scheduler.now elapsed, back.map Booking.entry⟩,
        front.map Booking.task) := ledger.advance_eq due later
    have comes : (front ++ back).filter (·.due ≤ after scheduler.now elapsed) = front :=
      filter_front (by simpa using due) (by simpa using later)
    have front_ordered : front.Pairwise Booking.Before :=
      waiting_ordered.sublist (List.sublist_append_left front back)
    rw [moved_eq, ← List.filter_filter]
    exact ⟨front, comes ▸ ledger.filter_unreached.filter _, front_ordered, rfl⟩
  · calc scheduler.pending = waiting.length := by
          rw [pending, ledger.queue_eq, List.length_map]
      _ = (bookings turns).countP (!·.reached turns) := by
          rw [ledger.filter_unreached.length_eq, List.countP_eq_length_filter]

/-- Two tasks that come due together come back in the order in which they were put off, after one
that comes due sooner. -/
example (first second third : ScheduledTask) :
    (history [.schedule 10 first, .schedule 10 second, .schedule 5 third, .advance 10]).flatMap
      returned = [third, first, second] := rfl

end Panes.Scheduler
