import Panes.Proofs.Emission
import Panes.Session

/-!
# How a session carries out actions

The host carries out its actions in order and logs each of them, except those that it refuses; the
scheduler takes the tasks that are put off; and broadcasts wait until the event is done. So an event
comes to what `deliver_eq` says. A queue of events, to whose end each broadcast goes, is empty
after at most two events, and `dispatch` is what it comes to.
-/

namespace Panes

namespace Action

/-- The host carries the action out and logs it. It gets no part of what comes back to the
coordinator, and it refuses what is for a content store out of reach. -/
def isLogged (rejectsShelf : Bool) : Action → Bool
  | schedule _ _ | broadcast _ => false
  | postToShelf _ => !rejectsShelf
  | _ => true

/-- The task that is put off, and for how long. -/
def putOff? : Action → Option (Nat × ScheduledTask)
  | schedule delayMs task => some (delayMs * Scheduler.millisecond, task)
  | _ => none

/-- What becomes of the panes on the stack, topmost first. -/
def restack (stack : List Pane) : Action → List Pane
  | display pane addToBackStack => pane :: if addToBackStack then stack else stack.tail
  | clearPanes => []
  | navigateBack => stack.tail
  | _ => stack

end Action

/-- The host after some actions, carried out in order. -/
def Host.carryOut (host : Host) (actions : List Action) : Host :=
  { host with
    stack := actions.foldl Action.restack host.stack
    log := host.log ++ actions.filter (Action.isLogged host.rejectsShelf) }

/-- The scheduler after some tasks were put off, one after another. -/
def Scheduler.putOff (scheduler : Scheduler) (tasks : List (Nat × ScheduledTask)) : Scheduler :=
  tasks.foldl (fun scheduler task => scheduler.schedule task.1 task.2) scheduler

@[simp]
theorem Host.carryOut_nil (host : Host) : host.carryOut [] = host := by
  simp [carryOut]

theorem Host.carryOut_append (host : Host) (earlier later : List Action) :
    host.carryOut (earlier ++ later) = (host.carryOut earlier).carryOut later := by
  simp [carryOut]

/-- What the host does not log leaves it as it is. -/
theorem Host.carryOut_of_not_logged {host : Host} {action : Action}
    (unlogged : action.isLogged host.rejectsShelf = false) : host.carryOut [action] = host := by
  have kept : action.restack host.stack = host.stack := by
    cases action <;> first | rfl | cases unlogged
  simp [carryOut, unlogged, kept]

theorem Scheduler.putOff_append (scheduler : Scheduler)
    (earlier later : List (Nat × ScheduledTask)) :
    scheduler.putOff (earlier ++ later) = (scheduler.putOff earlier).putOff later := by
  simp [putOff]

namespace Session

/-! ## One event -/

/-- The session after some actions but broadcasts. -/
def carryOut (session : Session) (actions : List Action) : Session :=
  { session with
    host := session.host.carryOut actions
    scheduler := session.scheduler.putOff (actions.filterMap Action.putOff?) }

@[simp]
theorem carryOut_state (session : Session) (actions : List Action) :
    (session.carryOut actions).state = session.state := rfl

@[simp]
theorem carryOut_nil (session : Session) : session.carryOut [] = session := by
  simp [carryOut, Scheduler.putOff]

theorem carryOut_append (session : Session) (earlier later : List Action) :
    session.carryOut (earlier ++ later) = (session.carryOut earlier).carryOut later := by
  simp [carryOut, Host.carryOut_append, Scheduler.putOff_append]

theorem perform_postToShelf (session : Session) (command : Shelf.Command) :
    session.perform (.postToShelf command) = session.carryOut [.postToShelf command] := by
  unfold perform execute Host.post
  cases rejects : session.host.rejectsShelf with
  | false =>
    have logged : session.host.carryOut [.postToShelf command] =
        session.host.record (.postToShelf command) := by
      simp [Host.carryOut, Action.restack, Action.isLogged, Host.record, rejects]
    rw [carryOut, logged]
    rfl
  | true =>
    rw [carryOut, Host.carryOut_of_not_logged (by simp [Action.isLogged, rejects])]
    rfl

theorem perform_eq (session : Session) (action : Action) :
    session.perform action = session.carryOut [action] := by
  cases action with
  | schedule _ _ | broadcast _ =>
    rw [carryOut, Host.carryOut_of_not_logged rfl]
    rfl
  | postToShelf command => exact session.perform_postToShelf command
  | _ => rfl

theorem foldl_perform (session : Session) (actions : List Action) :
    actions.foldl perform session = session.carryOut actions := by
  induction actions generalizing session with
  | nil => rw [carryOut_nil, List.foldl_nil]
  | cons action actions ih =>
    rw [List.foldl_cons, ih, perform_eq, ← carryOut_append]
    rfl

/-- The moment at which an event meets the session. -/
def meet (surroundings : Surroundings) (session : Session) (event : Event) : Moment :=
  session.state.meet ⟨session.host.view surroundings, event⟩

/-- What an event comes to: the state that it leaves, with all its actions but the broadcasts
carried out. -/
theorem deliver_eq (surroundings : Surroundings) (session : Session) (event : Event) :
    let outcome := (session.meet surroundings event).outcome
    session.deliver surroundings event =
      ⟨carryOut { session with state := outcome.state } outcome.actions, outcome.changed,
        broadcasts outcome.actions⟩ := by
  intro outcome
  rw [deliver, foldl_perform]
  rfl

/-! ## What comes back -/

/-- What is read off actions that come back is not lost if the others are left out. -/
theorem filterMap_comesBack {α : Type} {read : Action → Option α}
    (internal : ∀ action, action.comesBack = false → read action = none) (actions : List Action) :
    (actions.filter Action.comesBack).filterMap read = actions.filterMap read := by
  rw [List.filterMap_filter]
  congr 1
  funext action
  cases returns : action.comesBack with
  | false => exact (internal action returns).symm
  | true => rfl

theorem putOff_handle (view : HostView) (state : Coordinator) (event : Event) :
    (state.handle view event).actions.filterMap Action.putOff? =
      (state.returning event).filterMap Action.putOff? := by
  rw [← state.comesBack_handle view event]
  refine (filterMap_comesBack ?_ _).symm
  intro action outward
  cases action <;> first | rfl | cases outward

theorem broadcasts_handle (view : HostView) (state : Coordinator) (event : Event) :
    broadcasts (state.handle view event).actions = broadcasts (state.returning event) := by
  rw [← state.comesBack_handle view event]
  refine (filterMap_comesBack ?_ _).symm
  intro action outward
  cases action <;> first | rfl | cases outward

theorem length_broadcasts_handle_le (view : HostView) (state : Coordinator) (event : Event) :
    (broadcasts (state.handle view event).actions).length ≤ 1 := by
  rw [broadcasts_handle]
  cases event <;> simp [Coordinator.returning, broadcasts]

/-- An event that sends no broadcast is over at once. -/
theorem dispatch_of_silent {surroundings : Surroundings} {session : Session} {event : Event}
    (silent : broadcasts (session.meet surroundings event).outcome.actions = []) :
    let outcome := (session.meet surroundings event).outcome
    session.dispatch surroundings event =
      (carryOut { session with state := outcome.state } outcome.actions, outcome.changed) := by
  rw [dispatch, deliver_eq]
  dsimp only
  rw [silent]
  rfl

/-! ## The queue -/

/-- What a queue of events comes to, if it is empty after at most so many of them. The broadcasts
that an event sends go to the end of the queue. The flag tells whether anything changed. -/
def drain (surroundings : Surroundings) :
    Nat → List Event → Session × Bool → Option (Session × Bool)
  | _, [], result => some result
  | 0, _ :: _, _ => none
  | limit + 1, event :: queue, (session, changed) =>
    let delivery := session.deliver surroundings event
    drain surroundings limit (queue ++ delivery.broadcasts.map Event.broadcast)
      (delivery.session, changed || delivery.changed)

/-- Broadcasts add nothing to the queue. -/
theorem drain_broadcasts (surroundings : Surroundings) (intents : List Intent) (limit : Nat)
    (enough : intents.length ≤ limit) (result : Session × Bool) :
    drain surroundings limit (intents.map Event.broadcast) result =
      some (intents.foldl (deliverBroadcast surroundings) result) := by
  induction intents generalizing limit result with
  | nil => cases limit <;> rfl
  | cons intent intents ih =>
    cases limit with
    | zero => simp at enough
    | succ limit =>
      have silent : (result.1.deliver surroundings (.broadcast intent)).broadcasts = [] :=
        broadcasts_broadcast _ _ intent
      rw [List.map_cons, drain, silent, List.map_nil, List.append_nil,
        ih limit (Nat.le_of_succ_le_succ enough)]
      rfl

/-- The queue is empty after the event and at most one broadcast. -/
theorem drain_event (surroundings : Surroundings) (session : Session) (event : Event) :
    drain surroundings 2 [event] (session, false) = some (session.dispatch surroundings event) := by
  have few : (session.deliver surroundings event).broadcasts.length ≤ 1 :=
    length_broadcasts_handle_le _ _ event
  rw [drain, List.nil_append, drain_broadcasts surroundings _ 1 few, Bool.false_or]
  rfl

/-! ## Several events -/

/-- The moments at which events meet the session, one after another. Each meets the state and the
host that the earlier ones left. -/
def moments (surroundings : Surroundings) : Session → List Event → List Moment
  | _, [] => []
  | session, event :: events =>
    session.meet surroundings event ::
      moments surroundings (session.deliver surroundings event).session events

/-- Handle one event after others, and add up whether anything changed. -/
def deliverNext (surroundings : Surroundings) (result : Session × Bool) (event : Event) :
    Session × Bool :=
  let delivery := result.1.deliver surroundings event
  (delivery.session, result.2 || delivery.changed)

theorem foldl_deliverNext (surroundings : Surroundings) (session : Session) (changed : Bool)
    (events : List Event) :
    let moments := session.moments surroundings events
    events.foldl (deliverNext surroundings) (session, changed) =
      (carryOut { session with state := session.state.run (moments.map Turn.operation) }
          (moments.flatMap (·.outcome.actions)),
        changed || moments.any (·.outcome.changed)) := by
  induction events generalizing session changed with
  | nil => simp [moments, carryOut, Scheduler.putOff]
  | cons event events ih =>
    simp only [List.foldl_cons, moments]
    rw [deliverNext, ih, deliver_eq]
    simp only [List.map_cons, List.flatMap_cons, List.any_cons, Coordinator.run, carryOut_append,
      Bool.or_assoc]
    rfl

/-- The moments of an event and of the broadcasts that it leads to. -/
def dispatched (surroundings : Surroundings) (session : Session) (event : Event) : List Moment :=
  let intents := broadcasts (session.meet surroundings event).outcome.actions
  session.moments surroundings (event :: intents.map Event.broadcast)

theorem dispatch_eq (surroundings : Surroundings) (session : Session) (event : Event) :
    let moments := session.dispatched surroundings event
    session.dispatch surroundings event =
      (carryOut { session with state := session.state.run (moments.map Turn.operation) }
          (moments.flatMap (·.outcome.actions)),
        moments.any (·.outcome.changed)) := by
  intro moments
  let intents := broadcasts (session.meet surroundings event).outcome.actions
  have folded : session.dispatch surroundings event =
      (event :: intents.map Event.broadcast).foldl (deliverNext surroundings) (session, false) := by
    rw [List.foldl_cons, List.foldl_map, deliverNext, Bool.false_or]
    rfl
  rw [folded, foldl_deliverNext, Bool.false_or]
  rfl

/-- Broadcasts put nothing off. -/
theorem putOff_broadcasts (surroundings : Surroundings) (session : Session)
    (intents : List Intent) :
    ((session.moments surroundings (intents.map Event.broadcast)).flatMap
      (·.outcome.actions)).filterMap Action.putOff? = [] := by
  induction intents generalizing session with
  | nil => rfl
  | cons intent intents ih =>
    rw [List.map_cons, moments, List.flatMap_cons, List.filterMap_append, ih, List.append_nil]
    exact putOff_handle _ _ (.broadcast intent)

/-- The scheduler takes the tasks that the event puts off. -/
theorem scheduler_dispatch (surroundings : Surroundings) (session : Session) (event : Event) :
    (session.dispatch surroundings event).1.scheduler =
      session.scheduler.putOff
        ((session.meet surroundings event).outcome.actions.filterMap Action.putOff?) := by
  rw [dispatch_eq, dispatched, moments]
  simp only [carryOut, List.flatMap_cons, List.filterMap_append, putOff_broadcasts,
    List.append_nil]

/-- Broadcasts leave the state as it is. -/
theorem state_deliverBroadcasts (surroundings : Surroundings) (intents : List Intent)
    (result : Session × Bool) :
    (intents.foldl (deliverBroadcast surroundings) result).1.state = result.1.state := by
  induction intents generalizing result with
  | nil => rfl
  | cons intent intents ih =>
    rw [List.foldl_cons, ih, deliverBroadcast, deliver_eq]
    rfl

theorem state_dispatch (surroundings : Surroundings) (session : Session) (event : Event) :
    (session.dispatch surroundings event).1.state = (session.meet surroundings event).after := by
  rw [dispatch, state_deliverBroadcasts, deliver_eq]
  rfl

/-- Dispatching an event is over after that event and at most one broadcast. The host carries out
and logs, in order and unaltered, what the event and then its broadcasts lead to, but for what comes
back and what it refuses; each broadcast meets the state and the host that were left before it. The
scheduler takes just the tasks that the event puts off, in order. It counts as a change if any of
the events does. -/
theorem dispatch_carries_out (surroundings : Surroundings) (session : Session) (event : Event) :
    let outcome := session.state.handle (session.host.view surroundings) event
    let events := event :: (broadcasts outcome.actions).map Event.broadcast
    let moments := session.moments surroundings events
    let actions := moments.flatMap (·.outcome.actions)
    let result := session.dispatch surroundings event
    events.length ≤ 2 ∧
      drain surroundings 2 [event] (session, false) = some result ∧
      result.1.state = session.state.run (moments.map Turn.operation) ∧
      result.1.host = session.host.carryOut actions ∧
      result.1.host.log =
        session.host.log ++ actions.filter (Action.isLogged session.host.rejectsShelf) ∧
      result.1.scheduler =
        session.scheduler.putOff (outcome.actions.filterMap Action.putOff?) ∧
      result.2 = moments.any (·.outcome.changed) := by
  intro outcome events moments actions result
  have result_eq : result =
      (carryOut { session with state := session.state.run (moments.map Turn.operation) } actions,
        moments.any (·.outcome.changed)) :=
    session.dispatch_eq surroundings event
  refine ⟨?_, session.drain_event surroundings event, ?_⟩
  · have few : (broadcasts outcome.actions).length ≤ 1 := length_broadcasts_handle_le _ _ event
    simpa [events] using few
  · have scheduler_eq := session.scheduler_dispatch surroundings event
    refine ⟨?_, ?_, ?_, scheduler_eq, ?_⟩ <;> rw [result_eq] <;> rfl

end Session

end Panes
