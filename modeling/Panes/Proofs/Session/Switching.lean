import Panes.Proofs.Background
import Panes.Proofs.Scheduler
import Panes.Proofs.Session.Run

/-!
# Switching panes from the drawer

A click in the drawer puts its request off until the drawer is closed. All requests are put off for
the same time, so they come due in the order of the clicks and the scheduler's queue is first in,
first out. What waits for the present host are the requests of the clicks since it was made that no
move of the clock has reached yet; `Agenda.waiting_next` says what a step makes of them, and the
results on runs follow by induction on the steps, from what waits at their start.
-/

namespace Panes.Session

/-! ## Steps and turns -/

/-- What a step means for the requests that are put off. -/
inductive Step.Role
  /-- A click in the drawer puts one off. -/
  | click (item : Drawer.Item)
  /-- The host is torn down. -/
  | tearDown
  /-- The clock is moved. -/
  | advance (elapsed : Nat)
  /-- Nothing. -/
  | other
  deriving DecidableEq, Repr

/-- What the step means for the requests that are put off. -/
def Step.role : Step → Role
  | .dispatch _ (.drawerItemClicked item) => .click item
  | .dispatch _ .hostDestroyed => .tearDown
  | .advance _ elapsed => .advance elapsed
  | _ => .other

/-- For how long requests are put off, in nanoseconds. -/
def delay : Nat := Coordinator.drawerCloseDelay * Scheduler.millisecond

theorem delay_eq : delay = 300000000 := rfl

namespace Turn

/-- The entry of the drawer that is clicked. -/
def clicked? (turn : Turn) : Option Drawer.Item :=
  match turn.operation.role with
  | .click item => some item
  | _ => none

/-- The host is torn down. -/
def endsHost (turn : Turn) : Bool := turn.operation.role = .tearDown

/-- When a request that is put off at this turn comes due. -/
def due (turn : Turn) : Nat := Scheduler.after turn.before.scheduler.now delay

/-- The clock is moved, and shows at least the given time then. -/
def reaches (turn : Turn) (time : Nat) : Bool :=
  match turn.operation.role with
  | .advance _ => time ≤ turn.after.scheduler.now
  | _ => false

/-- The displays that are carried out while the clock is moved. -/
def shown (turn : Turn) : List Action :=
  match turn.operation.role with
  | .advance _ => turn.logged.filter (·.kind = .display)
  | _ => []

/-- The turn is the first to reach the time, and the host was not torn down before it. -/
def reachesFirst (turn : Turn) (time : Nat) (between : List Turn) : Bool :=
  turn.reaches time && between.all fun other => !other.endsHost && !other.reaches time

end Turn

/-- One of the turns reaches the time, and the host is not torn down before it. -/
def reachedIn (time : Nat) (turns : List Turn) : Bool :=
  (turns.takeWhile (!·.endsHost)).any (·.reaches time)

/-- What the clicks among the turns ask to display, in order. A click counts or not, given when it
comes due and the turns that come after it. -/
def requested (counts : Nat → List Turn → Bool) : List Turn → List Action
  | [] => []
  | turn :: later =>
    match turn.clicked? with
    | some item =>
      if counts turn.due later then item.request.action :: requested counts later
      else requested counts later
    | none => requested counts later

/-! ## What waits -/

/-- The scheduler, and the number of the host that the coordinator is with. -/
structure Agenda where
  scheduler : Scheduler
  epoch : Nat
  deriving DecidableEq, Repr

/-- The part of a session that the requests that are put off depend on. -/
def agenda (session : Session) : Agenda := ⟨session.scheduler, session.state.epoch⟩

namespace Agenda

/-- What becomes of it. -/
def next (agenda : Agenda) : Step.Role → Agenda
  | .click item =>
    { agenda with scheduler := agenda.scheduler.schedule delay ⟨agenda.epoch, item.request⟩ }
  | .tearDown => { agenda with epoch := agenda.epoch + 1 }
  | .advance elapsed => { agenda with scheduler := (agenda.scheduler.advance elapsed).1 }
  | .other => agenda

/-- The queue is in order: sorted, nothing in it comes due later than what would be put off now, and
nothing was asked for by a host yet to come. -/
structure Punctual (agenda : Agenda) : Prop where
  sorted : Scheduler.Sorted agenda.scheduler.queue
  bounded : ∀ entry ∈ agenda.scheduler.queue,
    entry.due ≤ Scheduler.after agenda.scheduler.now delay
  known : ∀ entry ∈ agenda.scheduler.queue, entry.task.epoch ≤ agenda.epoch

theorem schedule_eq {agenda : Agenda} (punctual : agenda.Punctual) (task : ScheduledTask) :
    agenda.scheduler.schedule delay task =
      ⟨agenda.scheduler.now, agenda.scheduler.queue ++
        [⟨Scheduler.after agenda.scheduler.now delay, task⟩]⟩ := by
  let entry : Scheduler.Entry := ⟨Scheduler.after agenda.scheduler.now delay, task⟩
  have last : ∀ other ∈ agenda.scheduler.queue, other.due ≤ entry.due := punctual.bounded
  rw [Scheduler.schedule, Scheduler.enqueue_of_last last]

theorem punctual_next {agenda : Agenda} (punctual : agenda.Punctual) (role : Step.Role) :
    (agenda.next role).Punctual := by
  cases role with
  | click item =>
    rw [next, schedule_eq punctual]
    refine ⟨Scheduler.sorted_append_of_last punctual.sorted punctual.bounded, ?_, ?_⟩
    · exact List.forall_mem_append.mpr ⟨punctual.bounded, by simp⟩
    · exact List.forall_mem_append.mpr ⟨punctual.known, by simp⟩
  | tearDown =>
    refine ⟨punctual.sorted, punctual.bounded, ?_⟩
    intro entry member
    exact Nat.le_succ_of_le (punctual.known entry member)
  | advance elapsed =>
    have kept : (agenda.next (.advance elapsed)).scheduler.queue.Sublist agenda.scheduler.queue :=
      List.dropWhile_sublist _
    refine ⟨punctual.sorted.sublist kept, ?_, ?_⟩
    · intro entry member
      exact Nat.le_trans (punctual.bounded entry (kept.subset member))
        (Scheduler.after_le_after_after _ elapsed delay)
    · intro entry member
      exact punctual.known entry (kept.subset member)
  | other => exact punctual

/-- What waits for the present host. What a host asked for that is gone may still be in the queue,
but nothing will come of it. -/
def waiting (agenda : Agenda) : List Scheduler.Entry :=
  agenda.scheduler.queue.filter (·.task.epoch = agenda.epoch)

theorem waiting_next {agenda : Agenda} (punctual : agenda.Punctual) (role : Step.Role) :
    (agenda.next role).waiting =
      match role with
      | .click item =>
        agenda.waiting ++
          [⟨Scheduler.after agenda.scheduler.now delay, ⟨agenda.epoch, item.request⟩⟩]
      | .tearDown => []
      | .advance elapsed =>
        agenda.waiting.filter (¬ ·.due ≤ (agenda.next (.advance elapsed)).scheduler.now)
      | .other => agenda.waiting := by
  unfold waiting
  cases role with
  | click item =>
    rw [next, schedule_eq punctual]
    simp [List.filter_append]
  | tearDown =>
    rw [List.filter_eq_nil_iff]
    intro entry member
    have known : entry.task.epoch < agenda.epoch + 1 :=
      Nat.lt_succ_of_le (punctual.known entry member)
    rw [next, decide_eq_true_iff]
    exact Nat.ne_of_lt known
  | advance elapsed =>
    rw [next, Scheduler.advance]
    dsimp only
    rw [Scheduler.dropWhile_due punctual.sorted]
    exact List.filter_comm ..
  | other => rfl

end Agenda

theorem agenda_take (session : Session) (step : Step) :
    (session.take step).1.agenda = session.agenda.next step.role := by
  cases step with
  | dispatch surroundings event =>
    have tasks : (session.meet surroundings event).outcome.actions.filterMap Action.putOff? =
        (session.state.returning event).filterMap Action.putOff? :=
      putOff_handle _ _ event
    have scheduler_eq : (session.dispatch surroundings event).1.scheduler =
        session.scheduler.putOff ((session.state.returning event).filterMap Action.putOff?) := by
      rw [scheduler_dispatch, tasks]
    have epoch_eq : (session.dispatch surroundings event).1.state.epoch =
        (session.state.standing.next (session.host.view surroundings) event).epoch := by
      rw [state_dispatch]
      exact congrArg Standing.epoch (Coordinator.standing_handle _ _ event)
    change Agenda.mk (session.dispatch surroundings event).1.scheduler
      (session.dispatch surroundings event).1.state.epoch = _
    rw [scheduler_eq, epoch_eq]
    cases event <;> rfl
  | advance surroundings elapsed =>
    change Agenda.mk (session.advance surroundings elapsed).1.scheduler
      (session.advance surroundings elapsed).1.state.epoch = _
    rw [scheduler_advance, state_advance]
    rfl
  | _ => rfl

/-! ## What is displayed -/

/-- Nothing but the displays of tasks is carried out while the clock is moved, and no host refuses
them. -/
theorem filter_displays (rejects : Bool) (tasks : List ScheduledTask) :
    ((tasks.map (·.request.action)).filter (Action.isLogged rejects)).filter (·.kind = .display) =
      tasks.map (·.request.action) := by
  rw [List.filter_filter, List.filter_eq_self]
  intro action member
  obtain ⟨task, -, rfl⟩ := List.mem_map.mp member
  rfl

theorem due_tasks_eq {session : Session} (punctual : session.agenda.Punctual) (elapsed : Nat) :
    (session.scheduler.advance elapsed).2.filter (·.epoch = session.state.epoch) =
      (session.agenda.waiting.filter
        (·.due ≤ (session.scheduler.advance elapsed).1.now)).map Scheduler.Entry.task := by
  have sorted : Scheduler.Sorted session.scheduler.queue := punctual.sorted
  rw [Scheduler.advance]
  dsimp only
  rw [Scheduler.takeWhile_due sorted, List.filter_map, Agenda.waiting, List.filter_comm]
  rfl

/-- What a move of the clock displays is what waits for the present host and came due. -/
theorem shown_eq {session : Session} (punctual : session.agenda.Punctual) (step : Step) :
    Turn.shown ⟨session, step⟩ =
      match step.role with
      | .advance _ =>
        (session.agenda.waiting.filter (·.due ≤ (session.take step).1.scheduler.now)).map
          (·.task.request.action)
      | _ => [] := by
  cases step with
  | dispatch surroundings event => cases event <;> rfl
  | advance surroundings elapsed =>
    have clock : (session.take (.advance surroundings elapsed)).1.scheduler.now =
        (session.scheduler.advance elapsed).1.now :=
      congrArg Scheduler.now (session.scheduler_advance surroundings elapsed)
    have logged : Turn.shown ⟨session, .advance surroundings elapsed⟩ =
        ((session.scheduler.advance elapsed).2.filter (·.epoch = session.state.epoch)).map
          (·.request.action) := by
      rw [Turn.shown, Turn.logged_eq]
      exact filter_displays _ _
    rw [logged, due_tasks_eq punctual, List.map_map, ← clock]
    rfl
  | _ => rfl

/-! ## Runs -/

/-- What the waiting requests and the clicks of a run come to, in order, as far as they count. -/
def expected (counts : Nat → List Turn → Bool) (session : Session) (steps : List Step) :
    List Action :=
  let turns := session.history steps
  (session.agenda.waiting.filter fun entry => counts entry.due turns).map (·.task.request.action) ++
    requested counts turns

section

variable {session : Session} {step : Step} {steps : List Step} {counts : Nat → List Turn → Bool}

/-- A step that does not move the clock changes nothing in what is expected, given that a teardown
is the only such step that counts against a request. -/
theorem expected_cons (punctual : session.agenda.Punctual)
    (still : ∀ elapsed, step.role ≠ .advance elapsed)
    (passes : ∀ time, counts time (session.history (step :: steps)) =
      (!Turn.endsHost ⟨session, step⟩ && counts time ((session.take step).1.history steps))) :
    session.expected counts (step :: steps) = (session.take step).1.expected counts steps := by
  have waiting_eq := Agenda.waiting_next punctual step.role
  rw [← agenda_take] at waiting_eq
  unfold expected
  simp only [passes]
  rw [history_cons, requested]
  cases role : step.role with
  | click item =>
    rw [role] at waiting_eq
    rw [waiting_eq]
    have due_eq : Turn.due ⟨session, step⟩ = Scheduler.after session.agenda.scheduler.now delay :=
      rfl
    simp only [Turn.endsHost, Turn.clicked?, role, due_eq, List.filter_append, List.map_append,
      List.append_assoc]
    -- what the click asks for is requested on the left and waits on the right
    by_cases counted : counts (Scheduler.after session.agenda.scheduler.now delay)
        ((session.take step).1.history steps) = true
    · simp [counted]
    · simp [counted]
  | tearDown =>
    rw [role] at waiting_eq
    rw [waiting_eq]
    simp [Turn.endsHost, Turn.clicked?, role]
  | advance elapsed => exact absurd role (still elapsed)
  | other =>
    rw [role] at waiting_eq
    rw [waiting_eq]
    simp [Turn.endsHost, Turn.clicked?, role]

theorem expected_advance {elapsed : Nat} (moves : step.role = .advance elapsed) :
    session.expected counts (step :: steps) =
      (session.agenda.waiting.filter fun entry =>
          counts entry.due (session.history (step :: steps))).map (·.task.request.action) ++
        requested counts ((session.take step).1.history steps) := by
  have unclicked : Turn.clicked? ⟨session, step⟩ = none := by
    rw [Turn.clicked?, moves]
  rw [expected, history_cons, requested, unclicked]

theorem waiting_advance (punctual : session.agenda.Punctual) {elapsed : Nat}
    (moves : step.role = .advance elapsed) :
    (session.take step).1.agenda.waiting =
      session.agenda.waiting.filter (¬ ·.due ≤ (session.take step).1.scheduler.now) := by
  have agenda_eq : (session.take step).1.agenda = session.agenda.next (.advance elapsed) := by
    rw [agenda_take, moves]
  have clock : (session.take step).1.scheduler.now =
      (session.agenda.next (.advance elapsed)).scheduler.now :=
    congrArg (·.scheduler.now) agenda_eq
  rw [agenda_eq, clock, Agenda.waiting_next punctual]

theorem reaches_of_still (still : ∀ elapsed, step.role ≠ .advance elapsed) (time : Nat) :
    Turn.reaches ⟨session, step⟩ time = false := by
  cases role : step.role with
  | advance elapsed => exact absurd role (still elapsed)
  | _ => rw [Turn.reaches, role]

theorem reaches_of_moves {elapsed : Nat} (moves : step.role = .advance elapsed) (time : Nat) :
    Turn.reaches ⟨session, step⟩ time = decide (time ≤ (session.take step).1.scheduler.now) := by
  rw [Turn.reaches, moves]
  rfl

theorem endsHost_of_moves {elapsed : Nat} (moves : step.role = .advance elapsed) :
    Turn.endsHost ⟨session, step⟩ = false := by
  rw [Turn.endsHost, moves]
  rfl

theorem shown_of_still (still : ∀ elapsed, step.role ≠ .advance elapsed) :
    Turn.shown ⟨session, step⟩ = [] := by
  cases role : step.role with
  | advance elapsed => exact absurd role (still elapsed)
  | _ => rw [Turn.shown, role]

theorem reachedIn_cons (time : Nat) (turn : Turn) (later : List Turn) :
    reachedIn time (turn :: later) =
      (!turn.endsHost && (turn.reaches time || reachedIn time later)) := by
  unfold reachedIn
  cases ends : turn.endsHost <;> simp [ends]

theorem Turn.reachesFirst_cons (turn first : Turn) (time : Nat) (between : List Turn) :
    turn.reachesFirst time (first :: between) =
      (!first.endsHost && !first.reaches time && turn.reachesFirst time between) := by
  rw [reachesFirst, reachesFirst, List.all_cons]
  ac_rfl

/-- A move of the clock displays what it is the first to reach, and the rest is still expected. -/
theorem expected_reachedIn_cons (punctual : session.agenda.Punctual) :
    session.expected reachedIn (step :: steps) =
      Turn.shown ⟨session, step⟩ ++ (session.take step).1.expected reachedIn steps := by
  by_cases moves : ∃ elapsed, step.role = .advance elapsed
  · obtain ⟨elapsed, moves⟩ := moves
    have sorted : Scheduler.Sorted session.agenda.waiting := punctual.sorted.filter _
    rw [expected_advance moves, shown_eq punctual, moves]
    simp only [history_cons, reachedIn_cons, endsHost_of_moves moves, reaches_of_moves moves,
      Bool.not_false, Bool.true_and]
    -- what is due now stands before what only comes due later, so one filter becomes two in a row
    rw [Scheduler.filter_due_or sorted, List.map_append, List.append_assoc,
      ← waiting_advance punctual moves]
    rfl
  · have still : ∀ elapsed, step.role ≠ .advance elapsed := not_exists.mp moves
    rw [shown_of_still still, List.nil_append]
    apply expected_cons punctual still
    intro time
    rw [history_cons, reachedIn_cons, reaches_of_still still, Bool.false_or]

theorem expected_reachesFirst_cons (punctual : session.agenda.Punctual) (turn : Turn) :
    session.expected turn.reachesFirst (step :: steps) =
      (session.take step).1.expected turn.reachesFirst steps := by
  by_cases moves : ∃ elapsed, step.role = .advance elapsed
  · obtain ⟨elapsed, moves⟩ := moves
    rw [expected_advance moves, expected, waiting_advance punctual moves, List.filter_filter]
    simp only [history_cons, Turn.reachesFirst_cons, endsHost_of_moves moves,
      reaches_of_moves moves, Bool.not_false, Bool.true_and, Bool.and_comm, decide_not]
  · have still : ∀ elapsed, step.role ≠ .advance elapsed := not_exists.mp moves
    apply expected_cons punctual still
    intro time
    rw [history_cons, Turn.reachesFirst_cons, reaches_of_still still, Bool.not_false, Bool.and_true]

end

theorem punctual_take {session : Session} (punctual : session.agenda.Punctual) (step : Step) :
    (session.take step).1.agenda.Punctual := by
  rw [agenda_take]
  exact Agenda.punctual_next punctual step.role

/-- Over a run, the moves of the clock display what waited at its start and what was clicked, as far
as a move of the clock reached it in time. -/
theorem flatMap_shown (session : Session) (punctual : session.agenda.Punctual)
    (steps : List Step) :
    (session.history steps).flatMap Turn.shown = session.expected reachedIn steps := by
  induction steps generalizing session with
  | nil => simp [expected, history_nil, requested, reachedIn]
  | cons step steps ih =>
    rw [history_cons, List.flatMap_cons, ih _ (punctual_take punctual step),
      expected_reachedIn_cons punctual]

/-- A move of the clock after a run displays what waited at the start of the run and what was
clicked, as far as it is the first to reach it and in time. -/
theorem shown_after_run (session : Session) (punctual : session.agenda.Punctual)
    (steps : List Step) (surroundings : Surroundings) (elapsed : Nat) :
    let turn : Turn := ⟨session.run steps, .advance surroundings elapsed⟩
    turn.shown = session.expected turn.reachesFirst steps := by
  induction steps generalizing session with
  | nil =>
    intro turn
    have shown : turn.shown = _ := shown_eq punctual (.advance surroundings elapsed)
    rw [shown, expected, history_nil, requested, List.append_nil]
    simp only [Turn.reachesFirst, List.all_nil, Bool.and_true]
    rfl
  | cons step steps ih =>
    intro turn
    rw [expected_reachesFirst_cons punctual]
    exact ih _ (punctual_take punctual step)

/-! ## From the start -/

theorem punctual_initial (settings : Settings) : (initial settings).agenda.Punctual where
  sorted := List.Pairwise.nil
  bounded := List.forall_mem_nil _
  known := List.forall_mem_nil _

/-- Nothing waits at the start. -/
theorem expected_initial (counts : Nat → List Turn → Bool) (settings : Settings)
    (steps : List Step) :
    (initial settings).expected counts steps =
      requested counts ((initial settings).history steps) := rfl

theorem displays_of_click (surroundings : Surroundings) (session : Session) (item : Drawer.Item) :
    let click : Turn := ⟨session, .dispatch surroundings (.drawerItemClicked item)⟩
    click.logged.filter (·.kind = .display) = [] := by
  intro click
  let event : Event := .drawerItemClicked item
  have silent : broadcasts (session.meet surroundings event).outcome.actions = [] :=
    broadcasts_handle _ _ event
  have actions_eq : click.actions = (session.meet surroundings event).outcome.actions := by
    change (session.dispatched surroundings event).flatMap (·.outcome.actions) = _
    rw [dispatched, silent]
    exact List.append_nil _
  have within : Action.Within event.kinds click.actions := by
    rw [actions_eq]
    exact Coordinator.handle_within _ _ event
  rw [Turn.logged_eq, List.filter_eq_nil_iff]
  intro action member displayed
  have known : action.kind ∈ event.kinds := within action (List.mem_of_mem_filter member)
  rw [of_decide_eq_true displayed] at known
  simp [event] at known

/-- What the clicks in the drawer ask for is displayed while the clock is moved, in the order of
the clicks: all that a move of the clock reached before the host was torn down, and nothing else. A
move displays just what it is the first to reach, and the click itself displays nothing. -/
theorem drawer_clicks_displayed (settings : Settings) (steps : List Step) :
    let session := (initial settings).run steps
    let turns := (initial settings).history steps
    turns.flatMap Turn.shown = requested reachedIn turns ∧
      (∀ surroundings elapsed,
        let turn : Turn := ⟨session, .advance surroundings elapsed⟩
        turn.shown = requested turn.reachesFirst turns) ∧
      ∀ surroundings item,
        let click : Turn := ⟨session, .dispatch surroundings (.drawerItemClicked item)⟩
        click.logged.filter (·.kind = .display) = [] := by
  intro session turns
  have punctual : (initial settings).agenda.Punctual := punctual_initial settings
  refine ⟨?_, ?_, ?_⟩
  · exact (flatMap_shown _ punctual steps).trans (expected_initial reachedIn settings steps)
  · intro surroundings elapsed turn
    have shown : turn.shown = (initial settings).expected turn.reachesFirst steps :=
      shown_after_run _ punctual steps surroundings elapsed
    exact shown.trans (expected_initial turn.reachesFirst settings steps)
  · intro surroundings item
    exact displays_of_click surroundings session item

end Panes.Session
