import Panes.Scheduler
import Mathlib.Data.List.Basic
import Mathlib.Data.List.TakeWhile

/-!
# The queue of a scheduler

As long as the waiting tasks are sorted by the time at which they come due, those that came due are
just the ones at the front, and a task that comes due last waits behind all others.
-/

namespace Panes.Scheduler

/-- The entries are sorted by the time at which they come due. -/
def Sorted (queue : List Entry) : Prop :=
  queue.Pairwise fun earlier later => earlier.due ≤ later.due

/-- An entry is put between those that come due no later and those that come due later. -/
theorem enqueue_between {entry : Entry} {front back : List Entry}
    (sooner : ∀ other ∈ front, other.due ≤ entry.due)
    (later : ∀ other ∈ back, entry.due < other.due) :
    enqueue entry (front ++ back) = front ++ entry :: back := by
  induction front with
  | nil =>
    cases back with
    | nil => rfl
    | cons head tail => exact if_pos (later head List.mem_cons_self)
  | cons head tail ih =>
    obtain ⟨head_sooner, tail_sooner⟩ := List.forall_mem_cons.mp sooner
    rw [List.cons_append, enqueue, if_neg (Nat.not_lt.mpr head_sooner), ih tail_sooner]
    rfl

theorem enqueue_of_last {entry : Entry} {queue : List Entry}
    (last : ∀ other ∈ queue, other.due ≤ entry.due) : enqueue entry queue = queue ++ [entry] := by
  have between := enqueue_between last (List.forall_mem_nil _)
  rwa [List.append_nil] at between

theorem sorted_append_of_last {entry : Entry} {queue : List Entry} (sorted : Sorted queue)
    (last : ∀ other ∈ queue, other.due ≤ entry.due) : Sorted (queue ++ [entry]) := by
  rw [Sorted, List.pairwise_append]
  exact ⟨sorted, List.pairwise_singleton _ _, by simpa using last⟩

/-- An entry that is not due has only such behind it. -/
theorem lt_due_of_sorted {head : Entry} {tail : List Entry} (sorted : Sorted (head :: tail))
    {time : Nat} (waits : ¬ head.due ≤ time) : ∀ entry ∈ head :: tail, ¬ entry.due ≤ time := by
  intro entry member
  rcases List.mem_cons.mp member with rfl | behind
  · exact waits
  · have later : head.due ≤ entry.due := (List.pairwise_cons.mp sorted).1 entry behind
    omega

theorem takeWhile_due {queue : List Entry} (sorted : Sorted queue) (time : Nat) :
    queue.takeWhile (·.due ≤ time) = queue.filter (·.due ≤ time) := by
  induction queue with
  | nil => rfl
  | cons head tail ih =>
    by_cases due : head.due ≤ time
    · rw [List.takeWhile_cons_of_pos (by simpa using due),
        List.filter_cons_of_pos (by simpa using due), ih (List.pairwise_cons.mp sorted).2]
    · rw [List.takeWhile_cons_of_neg (by simpa using due), eq_comm, List.filter_eq_nil_iff]
      simpa using lt_due_of_sorted sorted due

theorem dropWhile_due {queue : List Entry} (sorted : Sorted queue) (time : Nat) :
    queue.dropWhile (·.due ≤ time) = queue.filter (¬ ·.due ≤ time) := by
  induction queue with
  | nil => rfl
  | cons head tail ih =>
    by_cases due : head.due ≤ time
    · rw [List.dropWhile_cons_of_pos (by simpa using due),
        List.filter_cons_of_neg (by simpa using due), ih (List.pairwise_cons.mp sorted).2]
    · rw [List.dropWhile_cons_of_neg (by simpa using due), eq_comm, List.filter_eq_self]
      simpa using lt_due_of_sorted sorted due

/-- The entries that are due come before all others that are picked. -/
theorem filter_due_or {queue : List Entry} (sorted : Sorted queue) (time : Nat)
    (pick : Entry → Bool) :
    queue.filter (fun entry => entry.due ≤ time || pick entry) =
      queue.filter (·.due ≤ time) ++ (queue.filter (¬ ·.due ≤ time)).filter pick := by
  have parts : queue.filter (·.due ≤ time) ++ queue.filter (¬ ·.due ≤ time) = queue := by
    rw [← takeWhile_due sorted, ← dropWhile_due sorted, List.takeWhile_append_dropWhile]
  have front : (queue.filter (·.due ≤ time)).filter
      (fun entry => entry.due ≤ time || pick entry) = queue.filter (·.due ≤ time) := by
    rw [List.filter_eq_self]
    intro entry member
    rw [(List.mem_filter.mp member).2, Bool.true_or]
  have back : (queue.filter (¬ ·.due ≤ time)).filter
      (fun entry => entry.due ≤ time || pick entry) =
        (queue.filter (¬ ·.due ≤ time)).filter pick := by
    apply List.filter_congr
    intro entry member
    have waits : ¬ entry.due ≤ time := of_decide_eq_true (List.mem_filter.mp member).2
    rw [decide_eq_false waits, Bool.false_or]
  conv_lhs => rw [← parts, List.filter_append, front, back]

/-! ## The clock -/

/-- A move of the clock takes out what is due, if that is all at the front. -/
theorem advance_between {scheduler : Scheduler} {elapsed : Nat} {front back : List Entry}
    (queue_eq : scheduler.queue = front ++ back)
    (due : ∀ entry ∈ front, entry.due ≤ after scheduler.now elapsed)
    (later : ∀ entry ∈ back, after scheduler.now elapsed < entry.due) :
    scheduler.advance elapsed = (⟨after scheduler.now elapsed, back⟩, front.map Entry.task) := by
  have taken (entry : Entry) (member : entry ∈ front) :
      decide (entry.due ≤ after scheduler.now elapsed) = true :=
    decide_eq_true (due entry member)
  rw [advance, queue_eq, List.takeWhile_append_of_pos taken, List.dropWhile_append_of_pos taken]
  cases back with
  | nil => simp
  | cons head tail =>
    have waits : ¬ head.due ≤ after scheduler.now elapsed :=
      Nat.not_le.mpr (later head List.mem_cons_self)
    rw [List.takeWhile_cons_of_neg (by simpa using waits),
      List.dropWhile_cons_of_neg (by simpa using waits), List.append_nil]

section

variable {α : Type} {early late : α → Bool} (imp : ∀ item, early item = true → late item = true)

include imp

theorem takeWhile_append_of_imp (list : List α) :
    list.takeWhile early ++ (list.dropWhile early).takeWhile late = list.takeWhile late := by
  induction list with
  | nil => rfl
  | cons head tail ih =>
    by_cases taken : early head = true
    · rw [List.takeWhile_cons_of_pos taken, List.dropWhile_cons_of_pos taken,
        List.takeWhile_cons_of_pos (imp head taken), List.cons_append, ih]
    · rw [List.takeWhile_cons_of_neg taken, List.dropWhile_cons_of_neg taken, List.nil_append]

theorem dropWhile_of_imp (list : List α) :
    (list.dropWhile early).dropWhile late = list.dropWhile late := by
  induction list with
  | nil => rfl
  | cons head tail ih =>
    by_cases taken : early head = true
    · rw [List.dropWhile_cons_of_pos taken, List.dropWhile_cons_of_pos (imp head taken), ih]
    · rw [List.dropWhile_cons_of_neg taken]

end

/-- Two moves of the clock take out what one move over both takes out, in the same order. No queue
is too muddled for that, as the second move begins where the first one stopped. -/
theorem advance_advance (scheduler : Scheduler) (first second : Nat) :
    let halfway := scheduler.advance first
    let apart := halfway.1.advance second
    scheduler.advance (after first second) = (apart.1, halfway.2 ++ apart.2) := by
  intro halfway apart
  have clock :
      after scheduler.now (after first second) = after (after scheduler.now first) second :=
    (after_after scheduler.now first second).symm
  have imp (entry : Entry) (due : decide (entry.due ≤ after scheduler.now first) = true) :
      decide (entry.due ≤ after (after scheduler.now first) second) = true := by
    have sooner : after scheduler.now first ≤ after (after scheduler.now first) second :=
      le_after (after_le_latest _ _) second
    exact decide_eq_true (Nat.le_trans (of_decide_eq_true due) sooner)
  simp only [advance, apart, halfway]
  rw [clock, ← List.map_append, takeWhile_append_of_imp imp, dropWhile_of_imp imp]

end Panes.Scheduler
