import Panes.Identifier

/-!
# The content store

The shelf keeps books, notes and filters. It takes commands and never answers at once: how a command
went comes back later as a `Shelf.Response`.
-/

namespace Panes.Shelf

/-- The place in a trace that a command comes from. -/
structure TraceContext where
  /-- The trace, in hexadecimal. -/
  traceId : String
  /-- The span that posted the command, in hexadecimal. -/
  parentSpanId : String
  deriving DecidableEq, Repr

/-- Where pasted notes go, relative to the note pointed at. -/
inductive Place
  /-- Before it. -/
  | above
  /-- After it. -/
  | below
  /-- Inside it. -/
  | under
  deriving DecidableEq, Repr

/-- What is to be done. -/
inductive Order
  /-- Delete notes of a book. -/
  | deleteNotes (bookId : BookId) (noteIds : List NoteId)
  /-- Cut notes of a book. -/
  | cutNotes (bookId : BookId) (noteIds : List NoteId)
  /-- Paste the notes cut last. -/
  | pasteNotes (bookId : BookId) (noteId : NoteId) (place : Place)
  /-- Move notes one level up. -/
  | promoteNotes (bookId : BookId) (noteIds : List NoteId)
  /-- Move notes one level down. -/
  | demoteNotes (bookId : BookId) (noteIds : List NoteId)
  /-- Move a note among its siblings, down when the offset is positive. -/
  | moveNote (bookId : BookId) (noteId : NoteId) (offset : Int32)
  /-- Unfold the outline so that a note can be seen. -/
  | sparseTree (bookId : BookId) (noteId : NoteId)
  /-- Create a book. -/
  | createBook (name : String)
  /-- Rename a book. -/
  | renameBook (bookId : BookId) (name : String)
  /-- Delete a book, and its remote copy when asked to. -/
  | deleteBook (bookId : BookId) (deleteLinked : Bool)
  /-- Export a book. -/
  | exportBook (bookId : BookId)
  /-- Import a document as a new book. -/
  | importBook (name uri : String)
  /-- Delete saved filters. -/
  | deleteFilters (filterIds : List FilterId)
  /-- Move a saved filter, down when the offset is positive. -/
  | moveFilter (filterId : FilterId) (offset : Int32)
  /-- Synchronise, as the host came to the foreground. -/
  | syncOnResume
  /-- Synchronise, as notes were restructured. -/
  | syncOnNoteUpdate
  deriving DecidableEq, Repr

/-- An order, with the place in the trace that it comes from. -/
structure Command where
  /-- What is to be done. -/
  order : Order
  /-- Where the order comes from, when it is traced. -/
  traceContext : Option TraceContext
  deriving DecidableEq, Repr

namespace Order

/-- The name of an order in messages. -/
def name : Order → String
  | deleteNotes .. => "delete_notes"
  | cutNotes .. => "cut_notes"
  | pasteNotes .. => "paste_notes"
  | promoteNotes .. => "promote_notes"
  | demoteNotes .. => "demote_notes"
  | moveNote .. => "move_note"
  | sparseTree .. => "sparse_tree"
  | createBook .. => "create_book"
  | renameBook .. => "rename_book"
  | deleteBook .. => "delete_book"
  | exportBook .. => "export_book"
  | importBook .. => "import_book"
  | deleteFilters .. => "delete_filters"
  | moveFilter .. => "move_filter"
  | syncOnResume => "sync_on_resume"
  | syncOnNoteUpdate => "sync_on_note_update"

/-- The order restructures an outline. -/
def isStructural : Order → Bool
  | promoteNotes .. | demoteNotes .. | moveNote .. => true
  | _ => false

end Order

/-- How a command went. -/
inductive Response
  /-- This many notes were deleted. -/
  | notesDeleted (count : Nat)
  /-- This many notes were cut. -/
  | notesCut (count : Nat)
  /-- This many notes were pasted. -/
  | notesPasted (count : Nat)
  /-- This many notes were moved. -/
  | notesMoved (count : Nat)
  /-- A book was created. -/
  | bookCreated (bookId : BookId)
  /-- A book was deleted. -/
  | bookDeleted (bookId : BookId)
  /-- A book was exported to a file. -/
  | bookExported (path : String)
  /-- A document was imported. -/
  | bookImported (bookId : BookId) (name : String)
  /-- Synchronisation ended, with a message when it failed. -/
  | syncFinished (error : Option String)
  /-- A command failed. -/
  | failed (command message : String)
  deriving DecidableEq, Repr

/-- How many of something, in words: the plural for every number but one. -/
def counted (count : Nat) (noun : String) : String :=
  if count = 1 then "1 " ++ noun else count.repr ++ " " ++ noun ++ "s"

/-- What the user is told about a number of notes. -/
def notesMessage (count : Nat) (participle : String) : String :=
  if count = 0 then "No notes " ++ participle else counted count "note" ++ " " ++ participle

/-- What the user is told about a response, if anything. -/
def Response.notification? : Response → Option String
  | notesDeleted count => some (notesMessage count "deleted")
  | notesCut count => some (notesMessage count "cut")
  | notesPasted count => some (notesMessage count "pasted")
  | bookDeleted _ => some "Notebook deleted"
  | bookExported path => some ("Notebook exported to " ++ path)
  | bookImported _ name => some ("Notebook " ++ name ++ " imported")
  | syncFinished (some error) => some ("Sync failed: " ++ error)
  | failed _ message => some message
  | notesMoved _ | bookCreated _ | syncFinished none => none

end Panes.Shelf
