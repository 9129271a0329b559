import Panes.Proofs.Session.Delivery
import Panes.Proofs.Turn

/-!
# Runs of a session

From outside an event is dispatched to a session, its clock is moved, or its host is told what
exists. A run does one of these after another, and its history keeps each step with the session that
it met. What a step has carried out is in `Turn.actions`, and `log_after` says that the host logs
just that, but for what comes back and what it refuses.
-/

namespace Panes.Session

/-! ## Tasks that come due -/

/-- A task displays its pane, if the host that asked for it is still there. -/
theorem dispatch_taskFired (surroundings : Surroundings) (session : Session)
    (task : ScheduledTask) :
    session.dispatch surroundings (.scheduledTaskFired task) =
      (session.carryOut (if task.epoch = session.state.epoch then [task.request.action] else []),
        false) := by
  have outcome_eq : (session.meet surroundings (.scheduledTaskFired task)).outcome =
      ⟨session.state, false,
        if task.epoch = session.state.epoch then [task.request.action] else []⟩ := by
    change session.state.taskFired task = _
    unfold Coordinator.taskFired
    split <;> rfl
  have silent : broadcasts (session.meet surroundings (.scheduledTaskFired task)).outcome.actions =
      [] :=
    broadcasts_handle _ _ (.scheduledTaskFired task)
  rw [dispatch_of_silent silent, outcome_eq]

theorem foldl_fire (surroundings : Surroundings) (session : Session) (tasks : List ScheduledTask) :
    tasks.foldl (fire surroundings) (session, false) =
      (session.carryOut ((tasks.filter (·.epoch = session.state.epoch)).map (·.request.action)),
        false) := by
  induction tasks generalizing session with
  | nil => rw [List.filter_nil, List.map_nil, carryOut_nil, List.foldl_nil]
  | cons task tasks ih =>
    have first : fire surroundings (session, false) task =
        (session.carryOut (if task.epoch = session.state.epoch then [task.request.action] else []),
          false) := by
      rw [fire, dispatch_taskFired]
      rfl
    rw [List.foldl_cons, first, ih, carryOut_state, ← carryOut_append, List.filter_cons]
    by_cases current : task.epoch = session.state.epoch
    · simp [current]
    · simp [current]

/-- When the clock is moved, the tasks of the present host that came due display their panes, in
order, and nothing counts as a change. -/
theorem advance_eq (surroundings : Surroundings) (session : Session) (elapsed : Nat) :
    let moved := session.scheduler.advance elapsed
    session.advance surroundings elapsed =
      (carryOut { session with scheduler := moved.1 }
          ((moved.2.filter (·.epoch = session.state.epoch)).map (·.request.action)),
        false) :=
  foldl_fire surroundings { session with scheduler := (session.scheduler.advance elapsed).1 } _

theorem putOff_displays (tasks : List ScheduledTask) :
    (tasks.map (·.request.action)).filterMap Action.putOff? = [] := by
  induction tasks with
  | nil => rfl
  | cons task tasks ih => exact ih

theorem state_advance (surroundings : Surroundings) (session : Session) (elapsed : Nat) :
    (session.advance surroundings elapsed).1.state = session.state := by
  rw [advance_eq]
  rfl

theorem scheduler_advance (surroundings : Surroundings) (session : Session) (elapsed : Nat) :
    (session.advance surroundings elapsed).1.scheduler =
      (session.scheduler.advance elapsed).1 := by
  rw [advance_eq]
  simp only [carryOut, putOff_displays]
  rfl

/-! ## Steps -/

/-- What is done to a session from outside. -/
inductive Step
  /-- An event is dispatched. -/
  | dispatch (surroundings : Surroundings) (event : Event)
  /-- The clock is moved by some nanoseconds. -/
  | advance (surroundings : Surroundings) (elapsed : Nat)
  /-- A note comes to exist. -/
  | addNote (note : NoteRef)
  /-- A book comes to exist. -/
  | addBook (id : BookId) (name : String)
  /-- The visible pane has unsaved edits or not. -/
  | confirmation (needed : Bool)
  /-- The content store is out of reach or not. -/
  | outage (rejects : Bool)
  /-- The host displays a pane of its own accord. -/
  | display (pane : Pane) (addToBackStack : Bool)
  deriving DecidableEq, Repr

/-- The session after a step, and the answer to it if it has one. -/
def take (session : Session) : Step → Session × Option Bool
  | .dispatch surroundings event => (session.dispatch surroundings event).map id some
  | .advance surroundings elapsed => (session.advance surroundings elapsed).map id some
  | .addNote note => ({ session with host := session.host.addNote note }, none)
  | .addBook id name => ({ session with host := session.host.addBook id name }, none)
  | .confirmation needed =>
    ({ session with host := { session.host with needsConfirmation := needed } }, none)
  | .outage rejects =>
    ({ session with host := { session.host with rejectsShelf := rejects } }, none)
  | .display pane addToBackStack =>
    ({ session with host := session.host.display pane addToBackStack }, none)

/-- A step in the course of a run, with the session that it met. -/
abbrev Turn := Panes.Turn Session Step

namespace Turn

/-- The session that the step left. -/
def after (turn : Turn) : Session := (turn.before.take turn.operation).1

/-- What the step answered: whether anything changed, for an event and for the clock. -/
def answer (turn : Turn) : Option Bool := (turn.before.take turn.operation).2

/-- What the host logged during the step. -/
def logged (turn : Turn) : List Action := turn.after.host.log.drop turn.before.host.log.length

end Turn

/-- The session after a step. -/
def next (session : Session) (step : Step) : Session := (session.take step).1

/-- The session after some steps, one after another. -/
def run (session : Session) (steps : List Step) : Session := steps.foldl next session

/-- The turns of a run, in order. -/
def history (session : Session) (steps : List Step) : List Turn := course next session steps

theorem run_cons (session : Session) (step : Step) (steps : List Step) :
    session.run (step :: steps) = (session.take step).1.run steps :=
  rfl

theorem history_nil (session : Session) : session.history [] = [] := rfl

theorem history_cons (session : Session) (step : Step) (steps : List Step) :
    session.history (step :: steps) = ⟨session, step⟩ :: (session.take step).1.history steps :=
  rfl

/-- What is to be carried out at a step. -/
def Turn.actions (turn : Turn) : List Action :=
  match turn.operation with
  | .dispatch surroundings event =>
    (turn.before.dispatched surroundings event).flatMap (·.outcome.actions)
  | .advance _ elapsed =>
    ((turn.before.scheduler.advance elapsed).2.filter (·.epoch = turn.before.state.epoch)).map
      (·.request.action)
  | .display pane addToBackStack => [.display pane addToBackStack]
  | _ => []

namespace Turn

theorem log_after (turn : Turn) :
    turn.after.host.log = turn.before.host.log ++
      turn.actions.filter (Action.isLogged turn.before.host.rejectsShelf) := by
  obtain ⟨session, step⟩ := turn
  cases step with
  | dispatch surroundings event =>
    simp only [after, take, dispatch_eq]
    rfl
  | advance surroundings elapsed =>
    simp only [after, take, advance_eq]
    rfl
  | display pane addToBackStack => rfl
  | _ => exact (List.append_nil _).symm

theorem logged_eq (turn : Turn) :
    turn.logged = turn.actions.filter (Action.isLogged turn.before.host.rejectsShelf) := by
  rw [logged, log_after, List.drop_left]

end Turn

end Panes.Session
