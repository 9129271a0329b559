import Panes.Pane

/-!
# Requests

Every way of asking for a pane (a broadcast, the launch, a drawer entry, a click) is reduced to one
`Request`, and a request has exactly one pane to display. A request that cannot be made out is
dropped: nothing here fails.
-/

namespace Panes

/-- What can be asked of the coordinator. -/
inductive Request
  /-- Show a book, scrolled to a note when one is given. -/
  | openBook (bookId : BookId) (noteId : Option NoteId)
  /-- Show the editor of a note. -/
  | openNote (bookId : BookId) (noteId : NoteId)
  /-- Show the notes that match a search expression. -/
  | openQuery (query : String)
  /-- Show the list of books. -/
  | openBooksList (addToBackStack : Bool)
  /-- Show the saved filters. -/
  | openFilters
  /-- Show the settings. -/
  | openSettings
  deriving DecidableEq, Repr

namespace Request

/-- The pane that a request displays. -/
def pane : Request → Pane
  | openBook bookId noteId => .book bookId noteId
  | openNote bookId noteId => .note bookId noteId
  | openQuery query => .query query
  | openBooksList _ => .books
  | openFilters => .filters
  | openSettings => .settings

/-- The transition goes on the back stack, unless the list of books asks that it should not. -/
def addsToBackStack : Request → Bool
  | openBooksList addToBackStack => addToBackStack
  | _ => true

end Request

/-- A message from outside: a broadcast or the intent of a launch. A number that is not positive
means that the extra is absent. -/
structure Intent where
  /-- What is asked for. -/
  action : String
  /-- The book concerned. -/
  bookId : Int64
  /-- The note concerned. -/
  noteId : Int64
  /-- A search expression. -/
  query : Option String
  /-- Address of a document to import. -/
  data : Option String
  deriving DecidableEq, Repr

namespace Intent

/-- The name under which a book is asked for. -/
def openBookAction : String := "open_book"

/-- The name under which a note is asked for. -/
def openNoteAction : String := "open_note"

/-- The name of a launch that brings a document to import. -/
def viewAction : String := "view"

/-- The name of a plain launch. -/
def mainAction : String := "main"

/-- Ask for a book. -/
def openBook (bookId : Int64) : Intent := ⟨openBookAction, bookId, 0, none, none⟩

/-- Ask for a note of a book. -/
def openNote (bookId noteId : Int64) : Intent := ⟨openNoteAction, bookId, noteId, none, none⟩

/-- Launch with a document to import. -/
def view (address : String) : Intent := ⟨viewAction, 0, 0, none, some address⟩

/-- Plain launch. -/
def main : Intent := ⟨mainAction, 0, 0, none, none⟩

/-- The request that a broadcast makes. An unknown action or a missing number makes none. -/
def broadcastRequest? (intent : Intent) : Option Request :=
  if intent.action = openBookAction then do
    let bookId ← BookId.ofRaw? intent.bookId
    some (.openBook bookId none)
  else if intent.action = openNoteAction then do
    let bookId ← BookId.ofRaw? intent.bookId
    let noteId ← NoteId.ofRaw? intent.noteId
    some (.openNote bookId noteId)
  else
    none

/-- The requests that a launch makes, in order. The list of books always comes first and stays off
the back stack; then the book and note asked for, or else the search asked for. -/
def launchRequests (intent : Intent) : List Request :=
  .openBooksList false ::
    match BookId.ofRaw? intent.bookId with
    | some bookId =>
      match NoteId.ofRaw? intent.noteId with
      | some noteId => [.openBook bookId (some noteId), .openNote bookId noteId]
      | none => [.openBook bookId none]
    | none =>
      match intent.query with
      | some query => [.openQuery query]
      | none => []

/-- The document that a launch asks to import. -/
def importAddress? (intent : Intent) : Option String :=
  if intent.action = viewAction then intent.data else none

end Intent

end Panes
