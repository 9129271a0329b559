import Panes.Event
import Panes.Wire.Action
import Panes.Wire.Offset

/-!
# Written events

An event is tagged by `event`.
-/

namespace Panes

open Wire

namespace Drawer.Edge

/-- The name of an edge. -/
def name : Edge → String
  | opened => "opened"
  | closed => "closed"

/-- An edge as a value. -/
def toJson (edge : Edge) : Json := .string edge.name

/-- The edge that a value denotes. -/
def ofJson? (mode : Mode) (json : Json) : Option Edge :=
  name? ([opened, closed].map fun edge => (edge.name, edge)) mode json

end Drawer.Edge

namespace Event

/-- The tags, in order. -/
def tags : List String :=
  ["cold_start", "resumed", "host_destroyed", "broadcast", "broadcast_payload", "navigate",
    "drawer_slide", "drawer_item_clicked", "back_pressed", "search_opened", "search_submitted",
    "pane_announced", "panes_cleared", "note_clicked", "note_long_clicked", "item_toggled",
    "selection_cleared", "note_scroll_requested", "book_clicked", "action_surface_closed",
    "shelf_request", "shelf_response", "file_chosen", "import_confirmed", "scheduled_task_fired"]

/-- An event as a value. -/
def toJson : Event → Json
  | coldStart intent => tagged "event" "cold_start" [("intent", intent.toJson)]
  | resumed firstRun => tagged "event" "resumed" [("first_run", .bool firstRun)]
  | hostDestroyed => tagged "event" "host_destroyed" []
  | broadcast intent => tagged "event" "broadcast" [("intent", intent.toJson)]
  | broadcastPayload payload =>
    tagged "event" "broadcast_payload" [("payload", .string payload)]
  | navigate request => tagged "event" "navigate" [("request", request.toJson)]
  | drawerSlide offset => tagged "event" "drawer_slide" [("offset", offset.toJson)]
  | drawerItemClicked item => tagged "event" "drawer_item_clicked" [("item", item.toJson)]
  | backPressed => tagged "event" "back_pressed" []
  | searchOpened => tagged "event" "search_opened" []
  | searchSubmitted query => tagged "event" "search_submitted" [("query", .string query)]
  | paneAnnounced pane title subtitle =>
    tagged "event" "pane_announced"
      [("pane", pane.toJson), ("title", ofNullable ofString title),
        ("subtitle", ofNullable ofString subtitle)]
  | panesCleared => tagged "event" "panes_cleared" []
  | noteClicked noteId => tagged "event" "note_clicked" [("note_id", noteId.toJson)]
  | noteLongClicked noteId => tagged "event" "note_long_clicked" [("note_id", noteId.toJson)]
  | itemToggled itemId descriptor =>
    tagged "event" "item_toggled"
      [("item_id", itemId.toJson),
        ("descriptor", ofNullable Surface.Descriptor.toJson descriptor)]
  | selectionCleared => tagged "event" "selection_cleared" []
  | noteScrollRequested noteId =>
    tagged "event" "note_scroll_requested" [("note_id", noteId.toJson)]
  | bookClicked bookId => tagged "event" "book_clicked" [("book_id", bookId.toJson)]
  | actionSurfaceClosed surface =>
    tagged "event" "action_surface_closed" [("surface", surface.toJson)]
  | shelfRequest command => tagged "event" "shelf_request" [("command", command.toJson)]
  | shelfResponse response => tagged "event" "shelf_response" [("response", response.toJson)]
  | fileChosen uri => tagged "event" "file_chosen" [("uri", .string uri)]
  | importConfirmed name uri =>
    tagged "event" "import_confirmed" [("name", .string name), ("uri", .string uri)]
  | scheduledTaskFired task => tagged "event" "scheduled_task_fired" [("task", task.toJson)]

/-- The event that a value denotes. -/
def ofJson? (mode : Mode) (json : Json) : Option Event := do
  let (name, body) ← tagged? "event" tags mode json
  let noteId := (fields? ["note_id"] body).bind (·.required "note_id" NoteId.ofJson?)
  match name with
  | "cold_start" =>
    let fields ← fields? ["intent"] body
    return coldStart (← fields.required "intent" Intent.ofJson?)
  | "resumed" =>
    let fields ← fields? ["first_run"] body
    return resumed (← fields.withDefault "first_run" false bool?)
  | "host_destroyed" => unit? hostDestroyed body
  | "broadcast" =>
    let fields ← fields? ["intent"] body
    return broadcast (← fields.required "intent" Intent.ofJson?)
  | "broadcast_payload" =>
    let fields ← fields? ["payload"] body
    return broadcastPayload (← fields.required "payload" string?)
  | "navigate" =>
    let fields ← fields? ["request"] body
    return navigate (← fields.required "request" (Request.ofJson? .setAside))
  | "drawer_slide" =>
    let fields ← fields? ["offset"] body
    return drawerSlide (← fields.required "offset" Drawer.Offset.ofJson?)
  | "drawer_item_clicked" =>
    let fields ← fields? ["item"] body
    return drawerItemClicked (← fields.required "item" (Drawer.Item.ofJson? .setAside))
  | "back_pressed" => unit? backPressed body
  | "search_opened" => unit? searchOpened body
  | "search_submitted" =>
    let fields ← fields? ["query"] body
    return searchSubmitted (← fields.required "query" string?)
  | "pane_announced" =>
    let fields ← fields? ["pane", "title", "subtitle"] body
    return paneAnnounced (← fields.required "pane" (Pane.ofJson? .setAside))
      (← fields.optional "title" string?) (← fields.optional "subtitle" string?)
  | "panes_cleared" => unit? panesCleared body
  | "note_clicked" => return noteClicked (← noteId)
  | "note_long_clicked" => return noteLongClicked (← noteId)
  | "item_toggled" =>
    let fields ← fields? ["item_id", "descriptor"] body
    return itemToggled (← fields.required "item_id" ItemId.ofJson?)
      (← fields.optional "descriptor" (Surface.Descriptor.ofJson? .setAside))
  | "selection_cleared" => unit? selectionCleared body
  | "note_scroll_requested" => return noteScrollRequested (← noteId)
  | "book_clicked" =>
    let fields ← fields? ["book_id"] body
    return bookClicked (← fields.required "book_id" BookId.ofJson?)
  | "action_surface_closed" =>
    let fields ← fields? ["surface"] body
    return actionSurfaceClosed (← fields.required "surface" Surface.Id.ofJson?)
  | "shelf_request" =>
    let fields ← fields? ["command"] body
    return shelfRequest (← fields.required "command" (Shelf.Command.ofJson? .setAside))
  | "shelf_response" =>
    let fields ← fields? ["response"] body
    return shelfResponse (← fields.required "response" (Shelf.Response.ofJson? .setAside))
  | "file_chosen" =>
    let fields ← fields? ["uri"] body
    return fileChosen (← fields.required "uri" string?)
  | "import_confirmed" =>
    let fields ← fields? ["name", "uri"] body
    return importConfirmed (← fields.required "name" string?) (← fields.required "uri" string?)
  | "scheduled_task_fired" =>
    let fields ← fields? ["task"] body
    return scheduledTaskFired (← fields.required "task" (ScheduledTask.ofJson? .setAside))
  | _ => none

end Event

end Panes
