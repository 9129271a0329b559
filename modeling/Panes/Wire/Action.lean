import Panes.Action
import Panes.Wire.Request
import Panes.Wire.Shelf
import Panes.Wire.Surface

/-!
# Written actions

An action is tagged by `action`. A command to the content store has its own tag and fields beside
that of the action.
-/

namespace Panes

open Wire

namespace TitleBar.Text

/-- The names of the fields. -/
def fieldNames : List String := ["title", "subtitle"]

/-- A title as a value. -/
def toJson (text : Text) : Json :=
  .object (("title", .string text.title) :: optionalField "subtitle" ofString text.subtitle)

/-- The title that a value denotes. -/
def ofJson? (json : Json) : Option Text := do
  let fields ← fields? fieldNames json
  return ⟨← fields.required "title" string?, ← fields.optional "subtitle" string?⟩

end TitleBar.Text

namespace PendingImport

/-- The names of the fields. -/
def fieldNames : List String := ["uri", "suggested_name", "received_at"]

/-- A pending import as a value. -/
def toJson (pending : PendingImport) : Json :=
  .object [("uri", .string pending.uri),
    ("suggested_name", ofNullable ofString pending.suggestedName),
    ("received_at", ofInt64 pending.receivedAt)]

/-- The pending import that a value denotes. -/
def ofJson? (json : Json) : Option PendingImport := do
  let fields ← fields? fieldNames json
  return {
    uri := ← fields.required "uri" string?
    suggestedName := ← fields.optional "suggested_name" string?
    receivedAt := ← fields.required "received_at" int64? }

end PendingImport

namespace ScheduledTask

/-- The names of the fields. -/
def fieldNames : List String := ["epoch", "request"]

/-- A task as a value. -/
def toJson (task : ScheduledTask) : Json :=
  .object [("epoch", .nat task.epoch), ("request", task.request.toJson)]

/-- The task that a value denotes. -/
def ofJson? (mode : Mode) (json : Json) : Option ScheduledTask := do
  let fields ← fields? fieldNames json
  return ⟨← fields.required "epoch" unsigned?,
    ← fields.required "request" (Request.ofJson? mode)⟩

end ScheduledTask

namespace Action

/-- The tags, in order. -/
def tags : List String :=
  ["show", "clear_panes", "surface", "set_title", "apply_pane_chrome", "invalidate_options_menu",
    "close_keyboard", "open_drawer", "close_drawer", "collapse_search", "set_search_query",
    "navigate_back", "schedule", "broadcast", "post_to_shelf", "notify", "prompt_import"]

/-- An action as a value. -/
def toJson : Action → Json
  | display pane addToBackStack =>
    tagged "action" "show" [("pane", pane.toJson), ("add_to_backstack", .bool addToBackStack)]
  | clearPanes => tagged "action" "clear_panes" []
  | surface command => tagged "action" "surface" [("command", command.toJson)]
  | setTitle text => tagged "action" "set_title" [("text", text.toJson)]
  | applyPaneChrome kind selectionCount =>
    tagged "action" "apply_pane_chrome"
      [("kind", kind.toJson), ("selection_count", .nat selectionCount)]
  | invalidateOptionsMenu visible =>
    tagged "action" "invalidate_options_menu" [("visible", .bool visible)]
  | closeKeyboard => tagged "action" "close_keyboard" []
  | openDrawer => tagged "action" "open_drawer" []
  | closeDrawer => tagged "action" "close_drawer" []
  | collapseSearch => tagged "action" "collapse_search" []
  | setSearchQuery query => tagged "action" "set_search_query" [("query", .string query)]
  | navigateBack => tagged "action" "navigate_back" []
  | schedule delayMs task =>
    tagged "action" "schedule" [("delay_ms", .nat delayMs), ("task", task.toJson)]
  | broadcast intent => tagged "action" "broadcast" [("intent", intent.toJson)]
  | postToShelf command => tagged "action" "post_to_shelf" command.fields
  | notify message => tagged "action" "notify" [("message", .string message)]
  | promptImport pending => tagged "action" "prompt_import" [("import", pending.toJson)]

/-- The action that a value denotes. -/
def ofJson? (mode : Mode) (json : Json) : Option Action := do
  let (name, body) ← tagged? "action" tags mode json
  match name with
  | "show" =>
    let fields ← fields? ["pane", "add_to_backstack"] body
    return display (← fields.required "pane" (Pane.ofJson? .setAside))
      (← fields.required "add_to_backstack" bool?)
  | "clear_panes" => unit? clearPanes body
  | "surface" =>
    let fields ← fields? ["command"] body
    return surface (← fields.required "command" (Surface.Command.ofJson? .setAside))
  | "set_title" =>
    let fields ← fields? ["text"] body
    return setTitle (← fields.required "text" TitleBar.Text.ofJson?)
  | "apply_pane_chrome" =>
    let fields ← fields? ["kind", "selection_count"] body
    return applyPaneChrome (← fields.required "kind" (Pane.Kind.ofJson? .setAside))
      (← fields.required "selection_count" unsigned?)
  | "invalidate_options_menu" =>
    let fields ← fields? ["visible"] body
    return invalidateOptionsMenu (← fields.required "visible" bool?)
  | "close_keyboard" => unit? closeKeyboard body
  | "open_drawer" => unit? openDrawer body
  | "close_drawer" => unit? closeDrawer body
  | "collapse_search" => unit? collapseSearch body
  | "set_search_query" =>
    let fields ← fields? ["query"] body
    return setSearchQuery (← fields.required "query" string?)
  | "navigate_back" => unit? navigateBack body
  | "schedule" =>
    let fields ← fields? ["delay_ms", "task"] body
    return schedule (← fields.required "delay_ms" unsigned?)
      (← fields.required "task" (ScheduledTask.ofJson? .setAside))
  | "broadcast" =>
    let fields ← fields? ["intent"] body
    return broadcast (← fields.required "intent" Intent.ofJson?)
  | "post_to_shelf" => return postToShelf (← Shelf.Command.ofJson? .setAside body)
  | "notify" =>
    let fields ← fields? ["message"] body
    return notify (← fields.required "message" string?)
  | "prompt_import" =>
    let fields ← fields? ["import"] body
    return promptImport (← fields.required "import" PendingImport.ofJson?)
  | _ => none

end Action

end Panes
