import Panes.Drawer.Item
import Panes.Json.Tree
import Panes.Wire.Pane

/-!
# Written requests

A request is tagged by `request` and an entry of the drawer by `item`. An intent is a plain
structure: read from a text of its own, it tolerates anything that is a JSON text by its shape in
fields that it does not know.
-/

namespace Panes

open Wire

namespace Request

/-- The tags, in order. -/
def tags : List String :=
  ["open_book", "open_note", "open_query", "open_books_list", "open_filters", "open_settings"]

/-- A request as a value. -/
def toJson : Request → Json
  | openBook bookId noteId =>
    tagged "request" "open_book"
      (("book_id", bookId.toJson) :: optionalField "note_id" NoteId.toJson noteId)
  | openNote bookId noteId =>
    tagged "request" "open_note" [("book_id", bookId.toJson), ("note_id", noteId.toJson)]
  | openQuery query => tagged "request" "open_query" [("query", .string query)]
  | openBooksList addToBackStack =>
    tagged "request" "open_books_list" [("add_to_backstack", .bool addToBackStack)]
  | openFilters => tagged "request" "open_filters" []
  | openSettings => tagged "request" "open_settings" []

/-- The request that a value denotes. -/
def ofJson? (mode : Mode) (json : Json) : Option Request := do
  let (name, body) ← tagged? "request" tags mode json
  match name with
  | "open_book" =>
    let fields ← fields? ["book_id", "note_id"] body
    return openBook (← fields.required "book_id" BookId.ofJson?)
      (← fields.optional "note_id" NoteId.ofJson?)
  | "open_note" =>
    let fields ← fields? ["book_id", "note_id"] body
    return openNote (← fields.required "book_id" BookId.ofJson?)
      (← fields.required "note_id" NoteId.ofJson?)
  | "open_query" =>
    let fields ← fields? ["query"] body
    return openQuery (← fields.required "query" string?)
  | "open_books_list" =>
    let fields ← fields? ["add_to_backstack"] body
    return openBooksList (← fields.required "add_to_backstack" bool?)
  | "open_filters" => unit? openFilters body
  | "open_settings" => unit? openSettings body
  | _ => none

end Request

namespace Intent

/-- The names of the fields. -/
def fieldNames : List String := ["action", "book_id", "note_id", "query", "data"]

/-- An intent as a value. -/
def toJson (intent : Intent) : Json :=
  .object <|
    [("action", .string intent.action), ("book_id", ofInt64 intent.bookId),
      ("note_id", ofInt64 intent.noteId)]
      ++ optionalField "query" ofString intent.query
      ++ optionalField "data" ofString intent.data

/-- The intent that a value denotes. Absent numbers are zero. -/
def ofJson? (json : Json) : Option Intent := do
  let fields ← fields? fieldNames json
  return {
    action := ← fields.required "action" string?
    bookId := ← fields.withDefault "book_id" 0 int64?
    noteId := ← fields.withDefault "note_id" 0 int64?
    query := ← fields.optional "query" string?
    data := ← fields.optional "data" string? }

/-- The intent that a text denotes. -/
def ofText? (text : String) : Option Intent := (Json.parseRecord? fieldNames text).bind ofJson?

end Intent

namespace Drawer.Item

/-- The tags, in order. -/
def tags : List String := ["books", "filters", "settings", "book", "filter"]

/-- An entry of the drawer as a value. -/
def toJson : Item → Json
  | books => tagged "item" "books" []
  | filters => tagged "item" "filters" []
  | settings => tagged "item" "settings" []
  | book bookId => tagged "item" "book" [("book_id", bookId.toJson)]
  | filter query => tagged "item" "filter" [("query", .string query)]

/-- The entry of the drawer that a value denotes. -/
def ofJson? (mode : Mode) (json : Json) : Option Item := do
  let (name, body) ← tagged? "item" tags mode json
  match name with
  | "books" => unit? books body
  | "filters" => unit? filters body
  | "settings" => unit? settings body
  | "book" =>
    let fields ← fields? ["book_id"] body
    return book (← fields.required "book_id" BookId.ofJson?)
  | "filter" =>
    let fields ← fields? ["query"] body
    return filter (← fields.required "query" string?)
  | _ => none

end Drawer.Item

end Panes
