import Panes.Proofs.Scheduler
import Panes.Proofs.Session.Run

/-!
# Moves of the clock

A move of the clock only displays panes, and what it displays depends on the tasks that came due and
on nothing that a display changes. So it does not matter in how many moves the clock gets to a time.
-/

namespace Panes.Session

/-- What the tasks display that the present host asked for, in order. -/
def displays (session : Session) (tasks : List ScheduledTask) : List Action :=
  (tasks.filter (·.epoch = session.state.epoch)).map (·.request.action)

theorem displays_append (session : Session) (earlier later : List ScheduledTask) :
    session.displays (earlier ++ later) = session.displays earlier ++ session.displays later := by
  rw [displays, List.filter_append, List.map_append]
  rfl

/-- A move of the clock takes tasks out of the scheduler, displays them, and leaves the state as it
is. -/
theorem advance_parts (surroundings : Surroundings) (session : Session) (elapsed : Nat) :
    let moved := session.scheduler.advance elapsed
    session.advance surroundings elapsed =
      (⟨session.state, session.host.carryOut (session.displays moved.2), moved.1⟩, false) := by
  rw [advance_eq, carryOut, putOff_displays]
  rfl

/-- Two moves of the clock come to the same as one over both times, or as one to the greatest time
if that is too late: state, host and scheduler are the same afterwards, with all panes displayed
and all tasks that wait, and so is the answer whether anything changed. Nothing is asked of the
session, and the world around it may differ from move to move. -/
theorem clock_moves_add_up (early late whole : Surroundings) (session : Session)
    (first second : Nat) :
    let halfway := session.advance early first
    let apart := halfway.1.advance late second
    session.advance whole (Scheduler.after first second) = (apart.1, halfway.2 || apart.2) := by
  intro halfway apart
  let moved := session.scheduler.advance first
  have halfway_eq : halfway =
      (⟨session.state, session.host.carryOut (session.displays moved.2), moved.1⟩, false) :=
    advance_parts early session first
  have apart_eq : apart = halfway.1.advance late second := rfl
  rw [apart_eq, halfway_eq, advance_parts, advance_parts, Scheduler.advance_advance,
    displays_append, Host.carryOut_append]
  rfl

end Panes.Session
