/-!
# Places that are traced

Spans are opened at four places. Each belongs to a module, by which filters can choose it, and all
are of the same level of detail. A span says something of itself under fixed names.
-/

namespace Panes.Trace

/-- A place where a span is opened. -/
inductive Site
  /-- A line of a script is carried out. -/
  | replayStep
  /-- An event is dispatched. -/
  | dispatch
  /-- The coordinator handles an event. -/
  | handle
  /-- The surface follows the selection. -/
  | surfaceUpdate
  deriving DecidableEq, Repr

namespace Site

/-- The name of the spans. -/
def name : Site → String
  | replayStep => "replay_step"
  | dispatch => "runtime_dispatch"
  | handle => "handle_event"
  | surfaceUpdate => "action_mode_update"

/-- The module that the place belongs to. -/
def module : Site → String
  | replayStep => "panenav"
  | dispatch => "panenav::runtime"
  | handle => "panenav::app::handler"
  | surfaceUpdate => "panenav::app::action_mode"

end Site

/-- Levels of detail go from zero, for nothing, to five, for everything. The spans are of level
four. -/
def spanLevel : Nat := 4

/-- The greatest level of detail. -/
def maxLevel : Nat := 5

/-- What a span says of itself under one name. -/
inductive Detail
  /-- A count. -/
  | count (value : Nat)
  /-- A description. -/
  | text (value : List Char)
  deriving DecidableEq, Repr

/-- A span that is to be opened. -/
structure Opening where
  /-- The place. -/
  site : Site
  /-- What the span says of itself. -/
  details : List (String × Detail)
  deriving DecidableEq, Repr

namespace Opening

/-- A line of a script is carried out. -/
def replayStep (line : Nat) : Opening := ⟨.replayStep, [("line", .count line)]⟩

/-- An event is dispatched, and others wait. -/
def dispatch (waiting : Nat) : Opening := ⟨.dispatch, [("queued", .count waiting)]⟩

/-- The coordinator handles an event with this description. -/
def handle (event : List Char) : Opening := ⟨.handle, [("event_type", .text event)]⟩

/-- The surface follows the selection, given the number of selected entries and a description of
where the surface was in its life. -/
def surfaceUpdate (count : Nat) (phase : List Char) : Opening :=
  ⟨.surfaceUpdate, [("count", .count count), ("state", .text phase)]⟩

end Opening

end Panes.Trace
