import Panes.Proofs.Session.Run

/-!
# Outages of the content store

While the content store is out of reach the host refuses what is posted to it, and that is all. Two
runs of the same steps are compared, one with outages and one without. No view of the host shows
the log or the outage, so both runs handle the same events in the same states; `take_calmed` says
so for one step.
-/

namespace Panes.Session

/-- The session as it would be with the content store in reach and with another log. -/
def calmed (session : Session) (log : List Action) : Session :=
  { session with host := { session.host with rejectsShelf := false, log } }

/-- The step as it would be if the content store never got out of reach. -/
def Step.calm : Step → Step
  | .outage _ => .outage false
  | step => step

section

variable (surroundings : Surroundings) (session : Session) (log : List Action)

theorem meet_calmed (event : Event) :
    (session.calmed log).meet surroundings event = session.meet surroundings event := rfl

theorem deliver_calmed (event : Event) :
    ∃ later, ((session.calmed log).deliver surroundings event).session =
      (session.deliver surroundings event).session.calmed later := by
  rw [deliver_eq, deliver_eq, meet_calmed]
  exact ⟨_, rfl⟩

theorem moments_calmed (events : List Event) :
    (session.calmed log).moments surroundings events = session.moments surroundings events := by
  induction events generalizing session log with
  | nil => rfl
  | cons event events ih =>
    obtain ⟨later, later_eq⟩ := deliver_calmed surroundings session log event
    rw [moments, moments, later_eq, ih, meet_calmed]

theorem dispatched_calmed (event : Event) :
    (session.calmed log).dispatched surroundings event = session.dispatched surroundings event :=
  moments_calmed surroundings session log _

theorem dispatch_calmed (event : Event) :
    let dispatched := (session.dispatched surroundings event).flatMap (·.outcome.actions)
    (session.calmed log).dispatch surroundings event =
      ((session.dispatch surroundings event).1.calmed
          (log ++ dispatched.filter (Action.isLogged false)),
        (session.dispatch surroundings event).2) := by
  intro dispatched
  rw [dispatch_eq, dispatch_eq, dispatched_calmed]
  rfl

theorem advance_calmed (elapsed : Nat) :
    let due := (session.scheduler.advance elapsed).2.filter (·.epoch = session.state.epoch)
    (session.calmed log).advance surroundings elapsed =
      ((session.advance surroundings elapsed).1.calmed
          (log ++ (due.map (·.request.action)).filter (Action.isLogged false)),
        (session.advance surroundings elapsed).2) := by
  intro due
  rw [advance_eq, advance_eq]
  rfl

end

/-- A step comes to the same with the content store in reach, but that all is logged. -/
theorem take_calmed (session : Session) (log : List Action) (step : Step) :
    let turn : Turn := ⟨session, step⟩
    (session.calmed log).take step.calm =
      (turn.after.calmed (log ++ turn.actions.filter (Action.isLogged false)), turn.answer) := by
  intro turn
  cases step with
  | dispatch surroundings event =>
    have dispatched := dispatch_calmed surroundings session log event
    simp only [take, Step.calm, dispatched]
    rfl
  | advance surroundings elapsed =>
    have advanced := advance_calmed surroundings session log elapsed
    simp only [take, Step.calm, advanced]
    rfl
  | display pane addToBackStack => rfl
  | addNote _ | addBook _ _ | confirmation _ | outage _ =>
    -- these leave the log alone, and the outage itself is what `calmed` undoes
    have unlogged : log ++ turn.actions.filter (Action.isLogged false) = log := List.append_nil log
    rw [unlogged]
    rfl

theorem actions_calmed (session : Session) (log : List Action) (step : Step) :
    Turn.actions ⟨session.calmed log, step.calm⟩ = Turn.actions ⟨session, step⟩ := by
  cases step with
  | dispatch surroundings event =>
    exact congrArg (List.flatMap _) (dispatched_calmed surroundings session log event)
  | _ => rfl

/-- What is logged in spite of an outage is all but what is posted to the content store. -/
theorem filter_isLogged (rejects : Bool) (actions : List Action) :
    actions.filter (Action.isLogged rejects) =
      if rejects then (actions.filter (Action.isLogged false)).filter (·.kind ≠ .postToShelf)
      else actions.filter (Action.isLogged false) := by
  cases rejects with
  | false => rfl
  | true =>
    rw [if_pos rfl, List.filter_filter]
    congr 1
    funext action
    cases action <;> rfl

/-! ## Runs -/

theorem logged_calmed (session : Session) (log : List Action) (step : Step) :
    Turn.logged ⟨session.calmed log, step.calm⟩ =
      (Turn.actions ⟨session, step⟩).filter (Action.isLogged false) := by
  rw [Turn.logged_eq, actions_calmed]
  rfl

theorem history_calmed_cons (session : Session) (log : List Action) (step : Step)
    (steps : List Step) :
    let first : Turn := ⟨session.calmed log, step.calm⟩
    (session.calmed log).history ((step :: steps).map Step.calm) =
      first :: ((session.take step).1.calmed (log ++ first.logged)).history
        (steps.map Step.calm) := by
  intro first
  rw [List.map_cons, history_cons, take_calmed, logged_calmed]
  rfl

theorem run_calmed (session : Session) (log : List Action) (steps : List Step) :
    (session.calmed log).run (steps.map Step.calm) =
      (session.run steps).calmed
        (log ++ ((session.calmed log).history (steps.map Step.calm)).flatMap Turn.logged) := by
  induction steps generalizing session log with
  | nil => exact congrArg session.calmed (List.append_nil log).symm
  | cons step steps ih =>
    rw [history_calmed_cons, List.flatMap_cons, ← List.append_assoc, run_cons, ← ih,
      logged_calmed, List.map_cons, run_cons, take_calmed]
    rfl

theorem answers_calmed (session : Session) (log : List Action) (steps : List Step) :
    ((session.calmed log).history (steps.map Step.calm)).map Turn.answer =
      (session.history steps).map Turn.answer := by
  induction steps generalizing session log with
  | nil => rfl
  | cons step steps ih =>
    have answer_eq : Turn.answer ⟨session.calmed log, step.calm⟩ =
        Turn.answer ⟨session, step⟩ := by
      rw [Turn.answer, take_calmed]
    rw [history_calmed_cons, List.map_cons, ih, answer_eq]
    rfl

/-- What is logged at a turn, given the same turn with the content store in reach. -/
def Turn.spared (turn calm : Turn) : List Action :=
  if turn.before.host.rejectsShelf then calm.logged.filter (·.kind ≠ .postToShelf) else calm.logged

theorem log_run_eq (session : Session) (log : List Action) (steps : List Step) :
    (session.run steps).host.log = session.host.log ++
      (List.zipWith Turn.spared (session.history steps)
        ((session.calmed log).history (steps.map Step.calm))).flatten := by
  induction steps generalizing session log with
  | nil => exact (List.append_nil _).symm
  | cons step steps ih =>
    let turn : Turn := ⟨session, step⟩
    have spared : turn.spared ⟨session.calmed log, step.calm⟩ =
        turn.actions.filter (Action.isLogged session.host.rejectsShelf) := by
      rw [filter_isLogged, Turn.spared, logged_calmed]
    rw [history_calmed_cons, history_cons, List.zipWith_cons_cons, List.flatten_cons, spared,
      ← List.append_assoc, ← turn.log_after, run_cons]
    exact ih _ _

/-- Compare a run of a session, in which the content store gets out of reach and back as it likes,
with the same run in which it is always in reach. Whatever the steps are, and so after every step,
both runs gave the same answers, and state, scheduler, panes, lookups and unsaved edits are the
same. The one log is the other without what was posted during an outage. -/
theorem outage_drops_only_posts (session : Session) (steps : List Step) :
    let calm := session.calmed session.host.log
    let turns := session.history steps
    let calmTurns := calm.history (steps.map Step.calm)
    let after := session.run steps
    let calmAfter := calm.run (steps.map Step.calm)
    turns.map Turn.answer = calmTurns.map Turn.answer ∧
      after.state = calmAfter.state ∧ after.scheduler = calmAfter.scheduler ∧
      after.host.stack = calmAfter.host.stack ∧
      after.host.notes = calmAfter.host.notes ∧ after.host.books = calmAfter.host.books ∧
      after.host.needsConfirmation = calmAfter.host.needsConfirmation ∧
      calmAfter.host.log = session.host.log ++ calmTurns.flatMap Turn.logged ∧
      after.host.log = session.host.log ++ (List.zipWith Turn.spared turns calmTurns).flatten := by
  intro calm turns calmTurns after calmAfter
  have calmAfter_eq :
      calmAfter = after.calmed (session.host.log ++ calmTurns.flatMap Turn.logged) :=
    run_calmed session session.host.log steps
  refine ⟨(answers_calmed session session.host.log steps).symm, ?_⟩
  rw [calmAfter_eq]
  exact ⟨rfl, rfl, rfl, rfl, rfl, rfl, rfl, log_run_eq session session.host.log steps⟩

end Panes.Session
