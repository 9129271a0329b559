import Panes.Pane
import Panes.Wire.Field

/-!
# Written identifiers and panes

Identifiers are bare numbers, and kinds of panes plain names. A pane is tagged by `pane`.
-/

namespace Panes

open Wire

/-- An item as a value. -/
def ItemId.toJson (id : ItemId) : Json := ofInt64 id.raw

/-- The item that a value denotes. -/
def ItemId.ofJson? (json : Json) : Option ItemId := (int64? json).map ItemId.mk

/-- A note as a value. -/
def NoteId.toJson (id : NoteId) : Json := ofInt64 id.raw

/-- The note that a value denotes. -/
def NoteId.ofJson? (json : Json) : Option NoteId := (int64? json).map NoteId.mk

/-- A book as a value. -/
def BookId.toJson (id : BookId) : Json := ofInt64 id.raw

/-- The book that a value denotes. -/
def BookId.ofJson? (json : Json) : Option BookId := (int64? json).map BookId.mk

/-- A filter as a value. -/
def FilterId.toJson (id : FilterId) : Json := ofInt64 id.raw

/-- The filter that a value denotes. -/
def FilterId.ofJson? (json : Json) : Option FilterId := (int64? json).map FilterId.mk

namespace NoteRef

/-- The names of the fields. -/
def fieldNames : List String := ["id", "book_id"]

/-- The place of a note as a value. -/
def toJson (ref : NoteRef) : Json :=
  .object [("id", ref.id.toJson), ("book_id", ref.bookId.toJson)]

/-- The place of a note that a value denotes. -/
def ofJson? (json : Json) : Option NoteRef := do
  let fields ← fields? fieldNames json
  return ⟨← fields.required "id" NoteId.ofJson?, ← fields.required "book_id" BookId.ofJson?⟩

end NoteRef

namespace Pane

/-- The name of a kind. -/
def Kind.name : Kind → String
  | .books => "books"
  | .book => "book"
  | .note => "note"
  | .query => "query"
  | .filters => "filters"
  | .settings => "settings"

/-- All kinds, in order. -/
def Kind.all : List Kind := [.books, .book, .note, .query, .filters, .settings]

/-- A kind as a value. -/
def Kind.toJson (kind : Kind) : Json := .string kind.name

/-- The kind that a value denotes. -/
def Kind.ofJson? (mode : Mode) (json : Json) : Option Kind :=
  name? (Kind.all.map fun kind => (kind.name, kind)) mode json

/-- A pane as a value. -/
def toJson (pane : Pane) : Json :=
  tagged "pane" pane.kind.name <|
    match pane with
    | book bookId noteId =>
      ("book_id", bookId.toJson) :: optionalField "note_id" NoteId.toJson noteId
    | note bookId noteId => [("book_id", bookId.toJson), ("note_id", noteId.toJson)]
    | query text => [("query", .string text)]
    | books | filters | settings => []

/-- The pane that a value denotes. -/
def ofJson? (mode : Mode) (json : Json) : Option Pane := do
  let (name, body) ← tagged? "pane" (Kind.all.map Kind.name) mode json
  match name with
  | "books" => unit? books body
  | "book" =>
    let fields ← fields? ["book_id", "note_id"] body
    return book (← fields.required "book_id" BookId.ofJson?)
      (← fields.optional "note_id" NoteId.ofJson?)
  | "note" =>
    let fields ← fields? ["book_id", "note_id"] body
    return note (← fields.required "book_id" BookId.ofJson?)
      (← fields.required "note_id" NoteId.ofJson?)
  | "query" =>
    let fields ← fields? ["query"] body
    return query (← fields.required "query" string?)
  | "filters" => unit? filters body
  | "settings" => unit? settings body
  | _ => none

end Pane

end Panes
