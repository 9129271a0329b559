import Panes.Action

/-!
# A host in memory

This host shows nothing. It keeps a stack of panes, answers lookups from what it was told, and logs
every command it carried out as the action that asked for it.
-/

namespace Panes

/-- A host that logs what it is asked to do. -/
structure Host where
  /-- The notes that exist, newest entry first. -/
  notes : List (NoteId × NoteRef)
  /-- The names of the books that exist, newest entry first. -/
  books : List (BookId × String)
  /-- The panes that are displayed, topmost first. -/
  stack : List Pane
  /-- The visible pane has unsaved edits. -/
  needsConfirmation : Bool
  /-- The content store is out of reach. -/
  rejectsShelf : Bool
  /-- The commands carried out, in order. -/
  log : List Action
  deriving DecidableEq, Repr

/-- Why a host does not do what it is asked to do. -/
inductive HostError
  /-- The content store is out of reach for an order. -/
  | storeUnavailable (order : Shelf.Order)
  deriving DecidableEq, Repr

/-- The message of an error. -/
def HostError.message : HostError → String
  | storeUnavailable order => "content store unavailable for " ++ order.name

namespace Host

/-- The host at the start. -/
def initial : Host := ⟨[], [], [], false, false, []⟩

/-- Let a note exist. -/
def addNote (host : Host) (note : NoteRef) : Host :=
  { host with notes := (note.id, note) :: host.notes }

/-- Let a book exist. -/
def addBook (host : Host) (id : BookId) (name : String) : Host :=
  { host with books := (id, name) :: host.books }

/-- Where a note lives. -/
def note? (host : Host) (id : NoteId) : Option NoteRef := host.notes.lookup id

/-- The name of a book. -/
def bookName? (host : Host) (id : BookId) : Option String := host.books.lookup id

/-- The pane on screen. -/
def visiblePane? (host : Host) : Option Pane := host.stack.head?

/-- How many panes lie on the stack. -/
def depth (host : Host) : Nat := host.stack.length

/-- Log a command that was carried out. -/
def record (host : Host) (action : Action) : Host := { host with log := host.log ++ [action] }

/-- Take the log away. -/
def takeLog (host : Host) : Host × List Action := ({ host with log := [] }, host.log)

/-- The panes displayed, as far as the log goes back. -/
def shown (host : Host) : List Pane :=
  host.log.filterMap fun
    | .display pane _ => some pane
    | _ => none

/-- Display a pane. Off the back stack it takes the place of the topmost one. -/
def display (host : Host) (pane : Pane) (addToBackStack : Bool) : Host :=
  let below := if addToBackStack then host.stack else host.stack.tail
  { host with stack := pane :: below }.record (.display pane addToBackStack)

/-- Remove all panes. -/
def clearPanes (host : Host) : Host := { host with stack := [] }.record .clearPanes

/-- Remove the topmost pane. -/
def navigateBack (host : Host) : Host := { host with stack := host.stack.tail }.record .navigateBack

/-- Send a command to the content store. -/
def post (host : Host) (command : Shelf.Command) : Except HostError Host :=
  if host.rejectsShelf then
    .error (.storeUnavailable command.order)
  else
    .ok (host.record (.postToShelf command))

end Host

end Panes
