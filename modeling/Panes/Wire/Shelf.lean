import Panes.Shelf
import Panes.Wire.Pane

/-!
# Written commands and responses of the content store

Commands are tagged by `command`, with the trace context as the last field of each. Responses are
tagged by `response`.
-/

namespace Panes.Shelf

open Wire

namespace TraceContext

/-- The names of the fields. -/
def fieldNames : List String := ["trace_id", "parent_span_id"]

/-- A trace context as a value. -/
def toJson (context : TraceContext) : Json :=
  .object [("trace_id", .string context.traceId),
    ("parent_span_id", .string context.parentSpanId)]

/-- The trace context that a value denotes. -/
def ofJson? (json : Json) : Option TraceContext := do
  let fields ← fields? fieldNames json
  return ⟨← fields.required "trace_id" string?, ← fields.required "parent_span_id" string?⟩

end TraceContext

/-- The name of a place. -/
def Place.name : Place → String
  | .above => "above"
  | .below => "below"
  | .under => "under"

/-- A place as a value. -/
def Place.toJson (place : Place) : Json := .string place.name

/-- The place that a value denotes. -/
def Place.ofJson? (mode : Mode) (json : Json) : Option Place :=
  name? ([Place.above, .below, .under].map fun place => (place.name, place)) mode json

/-- The tags of commands, in order. -/
def Order.tags : List String :=
  ["delete_notes", "cut_notes", "paste_notes", "promote_notes", "demote_notes", "move_note",
    "sparse_tree", "create_book", "rename_book", "delete_book", "export_book", "import_book",
    "delete_filters", "move_filter", "sync_on_resume", "sync_on_note_update"]

namespace Order

/-- Several notes of a book, as fields. -/
def notesFields (bookId : BookId) (noteIds : List NoteId) : Fields :=
  [("book_id", bookId.toJson), ("note_ids", ofList NoteId.toJson noteIds)]

/-- The fields of an order. -/
def fields : Order → Fields
  | deleteNotes bookId noteIds => notesFields bookId noteIds
  | cutNotes bookId noteIds => notesFields bookId noteIds
  | pasteNotes bookId noteId place =>
    [("book_id", bookId.toJson), ("note_id", noteId.toJson), ("place", place.toJson)]
  | promoteNotes bookId noteIds => notesFields bookId noteIds
  | demoteNotes bookId noteIds => notesFields bookId noteIds
  | moveNote bookId noteId offset =>
    [("book_id", bookId.toJson), ("note_id", noteId.toJson), ("offset", ofInt32 offset)]
  | sparseTree bookId noteId => [("book_id", bookId.toJson), ("note_id", noteId.toJson)]
  | createBook name => [("name", .string name)]
  | renameBook bookId name => [("book_id", bookId.toJson), ("name", .string name)]
  | deleteBook bookId deleteLinked =>
    [("book_id", bookId.toJson), ("delete_linked", .bool deleteLinked)]
  | exportBook bookId => [("book_id", bookId.toJson)]
  | importBook name uri => [("name", .string name), ("uri", .string uri)]
  | deleteFilters filterIds => [("filter_ids", ofList FilterId.toJson filterIds)]
  | moveFilter filterId offset =>
    [("filter_id", filterId.toJson), ("offset", ofInt32 offset)]
  | syncOnResume => []
  | syncOnNoteUpdate => []

/-- The names of the fields of the order with a tag. -/
def fieldNames : String → List String
  | "delete_notes" | "cut_notes" | "promote_notes" | "demote_notes" => ["book_id", "note_ids"]
  | "paste_notes" => ["book_id", "note_id", "place"]
  | "move_note" => ["book_id", "note_id", "offset"]
  | "sparse_tree" => ["book_id", "note_id"]
  | "create_book" => ["name"]
  | "rename_book" => ["book_id", "name"]
  | "delete_book" => ["book_id", "delete_linked"]
  | "export_book" => ["book_id"]
  | "import_book" => ["name", "uri"]
  | "delete_filters" => ["filter_ids"]
  | "move_filter" => ["filter_id", "offset"]
  | _ => []

/-- The order with a tag and fields. A plain name among the fields is read in the given mode. -/
def ofFields? (mode : Mode) (tag : String) (fields : Fields) : Option Order := do
  let bookId := fields.required "book_id" BookId.ofJson?
  let noteId := fields.required "note_id" NoteId.ofJson?
  let noteIds := fields.required "note_ids" (list? NoteId.ofJson?)
  let offset := fields.required "offset" int32?
  let name := fields.required "name" string?
  match tag with
  | "delete_notes" => return deleteNotes (← bookId) (← noteIds)
  | "cut_notes" => return cutNotes (← bookId) (← noteIds)
  | "paste_notes" =>
    return pasteNotes (← bookId) (← noteId) (← fields.required "place" (Place.ofJson? mode))
  | "promote_notes" => return promoteNotes (← bookId) (← noteIds)
  | "demote_notes" => return demoteNotes (← bookId) (← noteIds)
  | "move_note" => return moveNote (← bookId) (← noteId) (← offset)
  | "sparse_tree" => return sparseTree (← bookId) (← noteId)
  | "create_book" => return createBook (← name)
  | "rename_book" => return renameBook (← bookId) (← name)
  | "delete_book" => return deleteBook (← bookId) (← fields.required "delete_linked" bool?)
  | "export_book" => return exportBook (← bookId)
  | "import_book" => return importBook (← name) (← fields.required "uri" string?)
  | "delete_filters" =>
    return deleteFilters (← fields.required "filter_ids" (list? FilterId.ofJson?))
  | "move_filter" =>
    return moveFilter (← fields.required "filter_id" FilterId.ofJson?) (← offset)
  | "sync_on_resume" => return syncOnResume
  | "sync_on_note_update" => return syncOnNoteUpdate
  | _ => none

end Order

namespace Command

/-- The fields of a command, its tag first. -/
def fields (command : Command) : Fields :=
  ("command", .string command.order.name) :: (command.order.fields
    ++ optionalField "trace_context" TraceContext.toJson command.traceContext)

/-- A command as a value. -/
def toJson (command : Command) : Json := .object command.fields

/-- The command that a value denotes. -/
def ofJson? (mode : Mode) (json : Json) : Option Command := do
  let (name, body) ← tagged? "command" Order.tags mode json
  let fields ← fields? (Order.fieldNames name ++ ["trace_context"]) body
  let order ← Order.ofFields? .setAside name fields
  return ⟨order, ← fields.optional "trace_context" TraceContext.ofJson?⟩

end Command

namespace Response

/-- The tags, in order. -/
def tags : List String :=
  ["notes_deleted", "notes_cut", "notes_pasted", "notes_moved", "book_created", "book_deleted",
    "book_exported", "book_imported", "sync_finished", "failed"]

/-- A response as a value. -/
def toJson : Response → Json
  | notesDeleted count => tagged "response" "notes_deleted" [("count", .nat count)]
  | notesCut count => tagged "response" "notes_cut" [("count", .nat count)]
  | notesPasted count => tagged "response" "notes_pasted" [("count", .nat count)]
  | notesMoved count => tagged "response" "notes_moved" [("count", .nat count)]
  | bookCreated bookId => tagged "response" "book_created" [("book_id", bookId.toJson)]
  | bookDeleted bookId => tagged "response" "book_deleted" [("book_id", bookId.toJson)]
  | bookExported path => tagged "response" "book_exported" [("path", .string path)]
  | bookImported bookId name =>
    tagged "response" "book_imported" [("book_id", bookId.toJson), ("name", .string name)]
  | syncFinished error =>
    tagged "response" "sync_finished" [("error", ofNullable ofString error)]
  | failed command message =>
    tagged "response" "failed" [("command", .string command), ("message", .string message)]

/-- The response that a value denotes. -/
def ofJson? (mode : Mode) (json : Json) : Option Response := do
  let (name, body) ← tagged? "response" tags mode json
  let count := (fields? ["count"] body).bind (·.required "count" unsigned?)
  let bookId := (fields? ["book_id"] body).bind (·.required "book_id" BookId.ofJson?)
  match name with
  | "notes_deleted" => return notesDeleted (← count)
  | "notes_cut" => return notesCut (← count)
  | "notes_pasted" => return notesPasted (← count)
  | "notes_moved" => return notesMoved (← count)
  | "book_created" => return bookCreated (← bookId)
  | "book_deleted" => return bookDeleted (← bookId)
  | "book_exported" =>
    let fields ← fields? ["path"] body
    return bookExported (← fields.required "path" string?)
  | "book_imported" =>
    let fields ← fields? ["book_id", "name"] body
    return bookImported (← fields.required "book_id" BookId.ofJson?)
      (← fields.required "name" string?)
  | "sync_finished" =>
    let fields ← fields? ["error"] body
    return syncFinished (← fields.optional "error" string?)
  | "failed" =>
    let fields ← fields? ["command", "message"] body
    return failed (← fields.required "command" string?) (← fields.required "message" string?)
  | _ => none

end Response

end Panes.Shelf
