import Panes.Coordinator.Step
import Panes.Host
import Panes.Scheduler

/-!
# Sessions

A session joins a coordinator with a host and a scheduler. Each event is handled to its end before
the next one starts: its actions are carried out in order, a broadcast among them comes back as an
event when they are done, and a task that is put off comes back when the clock reaches it. A
broadcast never leads to another broadcast (`broadcasts_broadcast`), so one round of them is all
there is.
-/

namespace Panes

/-- A coordinator at work. -/
structure Session where
  /-- The coordinator. -/
  state : Coordinator
  /-- The host that carries out its actions. -/
  host : Host
  /-- The tasks it put off. -/
  scheduler : Scheduler
  deriving DecidableEq, Repr

/-- What a session takes from the world around it while it handles an event. -/
structure Surroundings where
  /-- Unix time in milliseconds. -/
  now : Int64
  /-- The place in a trace that new commands come from. -/
  traceContext : Option Shelf.TraceContext
  deriving DecidableEq, Repr

/-- A clock that stands still, and no trace. -/
def Surroundings.still : Surroundings := ⟨0, none⟩

/-- What the coordinator sees of a host. -/
def Host.view (host : Host) (surroundings : Surroundings) : HostView where
  visiblePane := host.visiblePane?
  note := host.note?
  bookName := host.bookName?
  needsConfirmation := host.needsConfirmation
  now := surroundings.now
  traceContext := surroundings.traceContext

namespace Session

/-- A session at its start. -/
def initial (settings : Settings) : Session := ⟨.initial settings, .initial, .initial⟩

/-- Carry out an action, or say why the host does not. Broadcasts are left to `dispatch`. -/
def execute (session : Session) (action : Action) : Except HostError Session :=
  let onHost (host : Host) : Session := { session with host }
  match action with
  | .display pane addToBackStack => .ok (onHost (session.host.display pane addToBackStack))
  | .clearPanes => .ok (onHost session.host.clearPanes)
  | .navigateBack => .ok (onHost session.host.navigateBack)
  | .postToShelf command => (session.host.post command).map onHost
  | .schedule delayMs task =>
    .ok { session with
      scheduler := session.scheduler.schedule (delayMs * Scheduler.millisecond) task }
  | .broadcast _ => .ok session
  | action => .ok (onHost (session.host.record action))

/-- Carry out an action. What the host refuses is passed over. -/
def perform (session : Session) (action : Action) : Session :=
  match session.execute action with
  | .ok session => session
  | .error _ => session

/-- The broadcasts among actions. -/
def broadcasts (actions : List Action) : List Intent :=
  actions.filterMap fun
    | .broadcast intent => some intent
    | _ => none

theorem mem_broadcasts {intent : Intent} {actions : List Action} :
    intent ∈ broadcasts actions ↔ .broadcast intent ∈ actions := by
  rw [broadcasts, List.mem_filterMap]
  constructor
  · rintro ⟨action, member, found⟩
    cases action with
    | broadcast other =>
      obtain rfl := Option.some.inj found
      exact member
    | _ => cases found
  · intro member
    exact ⟨_, member, rfl⟩

theorem broadcasts_append (front back : List Action) :
    broadcasts (front ++ back) = broadcasts front ++ broadcasts back :=
  List.filterMap_append

/-- What one event leads to. -/
structure Delivery where
  /-- The session afterwards. -/
  session : Session
  /-- The event counts as a change of the state. -/
  changed : Bool
  /-- The broadcasts that are to come back. -/
  broadcasts : List Intent
  deriving DecidableEq, Repr

/-- Handle one event and carry out its actions. -/
def deliver (surroundings : Surroundings) (session : Session) (event : Event) : Delivery :=
  let outcome := session.state.handle (session.host.view surroundings) event
  let session := { session with state := outcome.state }
  ⟨outcome.actions.foldl perform session, outcome.changed, broadcasts outcome.actions⟩

/-- Handle one broadcast after others, and add up whether anything changed. -/
def deliverBroadcast (surroundings : Surroundings) (result : Session × Bool) (intent : Intent) :
    Session × Bool :=
  let delivery := result.1.deliver surroundings (.broadcast intent)
  (delivery.session, result.2 || delivery.changed)

/-- Handle an event and the broadcasts it leads to. The flag tells whether anything changed. -/
def dispatch (surroundings : Surroundings) (session : Session) (event : Event) : Session × Bool :=
  let delivery := session.deliver surroundings event
  delivery.broadcasts.foldl (deliverBroadcast surroundings) (delivery.session, delivery.changed)

/-- Handle one task after others. -/
def fire (surroundings : Surroundings) (result : Session × Bool) (task : ScheduledTask) :
    Session × Bool :=
  let (session, changed) := result.1.dispatch surroundings (.scheduledTaskFired task)
  (session, result.2 || changed)

/-- Move the clock and handle the tasks that came due. The flag tells whether anything changed. -/
def advance (surroundings : Surroundings) (session : Session) (elapsed : Nat) : Session × Bool :=
  let (scheduler, tasks) := session.scheduler.advance elapsed
  tasks.foldl (fire surroundings) ({ session with scheduler }, false)

/-- A broadcast leads to no broadcast. -/
theorem broadcasts_broadcast (view : HostView) (state : Coordinator) (intent : Intent) :
    broadcasts (state.handle view (.broadcast intent)).actions = [] := by
  simp only [Coordinator.handle, Coordinator.broadcast, Coordinator.emit]
  cases intent.broadcastRequest? <;> rfl

end Session

end Panes
