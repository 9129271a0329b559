import Panes.Document
import Panes.Request
import Panes.Shelf
import Panes.Surface
import Panes.TitleBar

/-!
# Actions

The coordinator changes nothing outside itself. For each event it answers with the actions that are
to be carried out, in order.
-/

namespace Panes

/-- A document that waits to be imported when the host comes to the foreground. -/
structure PendingImport where
  /-- The address of the document. -/
  uri : String
  /-- The name offered to the user. -/
  suggestedName : Option String
  /-- When the document arrived, in milliseconds of Unix time. -/
  receivedAt : Int64
  deriving DecidableEq, Repr

/-- The document at an address, which arrives now. -/
def PendingImport.arriving (uri : String) (now : Int64) : PendingImport :=
  ⟨uri, Document.bookName? uri, now⟩

/-- A request that is put off. -/
structure ScheduledTask where
  /-- The epoch of the host that asked for it. A task from an older epoch is stale. -/
  epoch : Nat
  /-- What is to be asked for. -/
  request : Request
  deriving DecidableEq, Repr

/-- What the host, the scheduler or the event queue is to do. -/
inductive Action
  /-- Display a pane. -/
  | display (pane : Pane) (addToBackStack : Bool)
  /-- Remove all panes. -/
  | clearPanes
  /-- Start, invalidate or finish a surface. -/
  | surface (command : Surface.Command)
  /-- Show a title. -/
  | setTitle (text : TitleBar.Text)
  /-- Set colours, drawer highlight and floating button for a pane. -/
  | applyPaneChrome (kind : Pane.Kind) (selectionCount : Nat)
  /-- Show or hide the options menu. -/
  | invalidateOptionsMenu (visible : Bool)
  /-- Hide the keyboard. -/
  | closeKeyboard
  /-- Open the drawer. -/
  | openDrawer
  /-- Close the drawer. -/
  | closeDrawer
  /-- Collapse the search box. -/
  | collapseSearch
  /-- Put a text into the search box. -/
  | setSearchQuery (query : String)
  /-- Go back as the host does by default. -/
  | navigateBack
  /-- Come back with a task after some milliseconds. -/
  | schedule (delayMs : Nat) (task : ScheduledTask)
  /-- Come back with a broadcast at once. -/
  | broadcast (intent : Intent)
  /-- Send a command to the content store. -/
  | postToShelf (command : Shelf.Command)
  /-- Tell the user something. -/
  | notify (message : String)
  /-- Ask the user for the name under which to import a document. -/
  | promptImport (pending : PendingImport)
  deriving DecidableEq, Repr

/-- The action that displays the pane of a request. -/
def Request.action (request : Request) : Action :=
  .display request.pane request.addsToBackStack

end Panes
