import Panes.Session
import Panes.Trace.Filter

/-!
# What a session does, as spans

Each step of a session opens spans within one another. `Activity` is that tree, and
`Activity.finished` lists the spans that a filter lets through, in the order in which they end.
-/

namespace Panes.Trace

/-- A span with the spans within it, in order. -/
inductive Activity
  /-- A span that is opened. -/
  | span (opening : Opening) (inner : List Activity)

/-- A span that ended. -/
structure Finished where
  /-- The place where it was opened. -/
  site : Site
  /-- How many traced spans were opened before it. -/
  number : Nat
  /-- The innermost traced span around it, by its place and number. -/
  parent : Option (Site × Nat)
  deriving DecidableEq, Repr

mutual

/-- The traced spans of an activity in the order in which they end, given what is open around it and
how many were opened before. -/
def Activity.finished (filter : Filter) (scope : Scope) (opened : Nat) :
    Activity → List Finished × Nat
  | .span opening inner =>
    if filter.traces scope opening then
      let (spans, next) :=
        Activity.finishedAll filter (filter.enter scope opening opened) (opened + 1) inner
      (spans ++ [⟨opening.site, opened, scope.spans.head?⟩], next)
    else
      Activity.finishedAll filter scope opened inner

/-- The traced spans of several activities one after the other. -/
def Activity.finishedAll (filter : Filter) (scope : Scope) (opened : Nat) :
    List Activity → List Finished × Nat
  | [] => ([], opened)
  | activity :: activities =>
    let (first, next) := Activity.finished filter scope opened activity
    let (rest, last) := Activity.finishedAll filter scope next activities
    (first ++ rest, last)

end

/-- The entry of a list pane that an event toggles. -/
def toggledEntry? (state : Coordinator) (event : Event) : Option ItemId :=
  match event with
  | .itemToggled item _ => some item
  | .noteClicked note =>
    if state.reverseNoteClick ∨ 0 < state.selectionCount then some note.item else none
  | .noteLongClicked note => if state.reverseNoteClick then none else some note.item
  | _ => none

/-- A value in the description of an event: its name and what it holds. -/
def describe (name : String) (parts : List String) : String :=
  name ++ " \x7b " ++ String.intercalate ", " parts ++ " \x7d"

/-- How an operation is described. -/
def describeOp : Surface.Op → String
  | .paste => "Paste"
  | .promote => "Promote"
  | .demote => "Demote"
  | .move => "Move"
  | .cut => "Cut"
  | .delete => "Delete"
  | .setState => "SetState"
  | .schedule => "Schedule"
  | .exportBook => "Export"
  | .renameBook => "Rename"

/-- How a kind of surface is described. -/
def describeKind : Surface.Kind → String
  | .book => "Book"
  | .note => "Note"
  | .filter => "Filter"

/-- How a value that may be missing is described. -/
def describeOption (value : Option String) : String :=
  match value with
  | some value => "Some(" ++ value ++ ")"
  | none => "None"

/-- How a descriptor is described. -/
def describeDescriptor (descriptor : Surface.Descriptor) : String :=
  describe "ActionDescriptor"
    ["kind: " ++ describeKind descriptor.kind,
      "allowed_ops: \x7b" ++ String.intercalate ", " (descriptor.allowedOps.ops.map describeOp)
        ++ "\x7d",
      "tag: " ++ describeOption (descriptor.tag.map fun _ => "Move")]

/-- How an event is described. Descriptions are compared with what directives want only to find the
level within a span, so events are left out within which the coordinator reaches no other place. -/
def describeEvent : Event → String
  | .noteClicked note => describe "NoteClicked" ["note_id: NoteId(" ++ note.text ++ ")"]
  | .noteLongClicked note => describe "NoteLongClicked" ["note_id: NoteId(" ++ note.text ++ ")"]
  | .itemToggled item descriptor =>
    describe "ItemToggled"
      ["item_id: ItemId(" ++ item.text ++ ")",
        "descriptor: " ++ describeOption (descriptor.map describeDescriptor)]
  | _ => ""

/-- The span in which the coordinator handles an event. -/
def handleSpan (event : Event) (inner : List Activity) : Activity :=
  .span (.handle (describeEvent event).toList) inner

/-- The spans in which the surface follows the selection. Nothing happens within them, so where the
surface was is left out of the details. -/
def surfaceSpans (state : Coordinator) (event : Event) : List Activity :=
  match state.list, toggledEntry? state event with
  | some list, some item => [.span (.surfaceUpdate (list.toggle item).selection.count []) []]
  | _, _ => []

/-- How the coordinator handles an event. A written broadcast is handled as the broadcast that it
denotes. -/
def handling (state : Coordinator) (event : Event) : Activity :=
  handleSpan event <|
    match event with
    | .broadcastPayload payload =>
      match Intent.ofText? payload with
      | some intent => [handleSpan (.broadcast intent) []]
      | none => []
    | _ => surfaceSpans state event

/-- How broadcasts are dispatched one after the other. -/
def broadcasting : List Intent → List Activity
  | [] => []
  | intent :: intents =>
    .span (.dispatch intents.length) [handleSpan (.broadcast intent) []] :: broadcasting intents

/-- How an event is dispatched, with the broadcasts it leads to. -/
def dispatching (surroundings : Surroundings) (session : Session) (event : Event) :
    List Activity :=
  .span (.dispatch 0) [handling session.state event]
    :: broadcasting (session.deliver surroundings event).broadcasts

/-- How the tasks that come due are dispatched. -/
def advancing (session : Session) (elapsed : Nat) : List Activity :=
  (session.scheduler.advance elapsed).2.map fun task =>
    .span (.dispatch 0) [handleSpan (.scheduledTaskFired task) []]

end Panes.Trace
