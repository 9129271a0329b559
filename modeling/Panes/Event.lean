import Panes.Action
import Panes.Drawer
import Panes.Drawer.Item

/-!
# Events

Everything the coordinator reacts to.
-/

namespace Panes

/-- Something that happened. -/
inductive Event
  /-- The host was created. -/
  | coldStart (intent : Intent)
  /-- The host came to the foreground; on a first run no book has ever been opened. -/
  | resumed (firstRun : Bool)
  /-- The host was torn down. -/
  | hostDestroyed
  /-- A broadcast arrived. -/
  | broadcast (intent : Intent)
  /-- A broadcast arrived in its written form, which may be malformed. -/
  | broadcastPayload (payload : String)
  /-- A button asks for a pane. -/
  | navigate (request : Request)
  /-- The drawer reports its offset. -/
  | drawerSlide (offset : Drawer.Offset)
  /-- An entry of the drawer was clicked. -/
  | drawerItemClicked (item : Drawer.Item)
  /-- Back was pressed. -/
  | backPressed
  /-- The search box was expanded. -/
  | searchOpened
  /-- A search was submitted. -/
  | searchSubmitted (query : String)
  /-- A pane became visible. -/
  | paneAnnounced (pane : Pane) (title subtitle : Option String)
  /-- The host removed all panes. -/
  | panesCleared
  /-- A note in a list was clicked. -/
  | noteClicked (noteId : NoteId)
  /-- A note in a list was pressed long. -/
  | noteLongClicked (noteId : NoteId)
  /-- An entry of a list was toggled, with a descriptor when the list pane has its own. -/
  | itemToggled (itemId : ItemId) (descriptor : Option Surface.Descriptor)
  /-- The visible pane dropped its selection. -/
  | selectionCleared
  /-- A note is to be shown inside its outline. -/
  | noteScrollRequested (noteId : NoteId)
  /-- A book in the list of books was clicked. -/
  | bookClicked (bookId : BookId)
  /-- The host closed a surface. -/
  | actionSurfaceClosed (surface : Surface.Id)
  /-- A pane asks the content store for something. -/
  | shelfRequest (command : Shelf.Command)
  /-- The content store reports how a command went. -/
  | shelfResponse (response : Shelf.Response)
  /-- A document was picked. -/
  | fileChosen (uri : String)
  /-- The user confirmed an import. -/
  | importConfirmed (name uri : String)
  /-- A task came due. -/
  | scheduledTaskFired (task : ScheduledTask)
  deriving DecidableEq, Repr

end Panes
