import Panes.Coordinator
import Panes.Event
import Panes.Wire.Request

/-!
# How events are handled

`Coordinator.handle` takes one event. It may look at the host and the clock through a `HostView`,
and all it does is said in its `Outcome`: the next state, whether the event counts as a change, and
the actions to be carried out, in order. What cannot be made out (a note that is gone, a late report
on an old surface, a malformed broadcast) leads to no action; it is not an error.
-/

namespace Panes

/-- What the coordinator can see of its surroundings while it handles an event. -/
structure HostView where
  /-- The pane on screen, if the host knows it. -/
  visiblePane : Option Pane
  /-- Where a note lives, if it exists. -/
  note : NoteId → Option NoteRef
  /-- The name of a book, if it exists. -/
  bookName : BookId → Option String
  /-- The visible pane has unsaved edits. -/
  needsConfirmation : Bool
  /-- Unix time in milliseconds. -/
  now : Int64
  /-- The place in a trace that new commands come from. -/
  traceContext : Option Shelf.TraceContext

/-- What handling an event comes to. -/
structure Outcome where
  /-- The next state. -/
  state : Coordinator
  /-- The event counts as a change of the state. -/
  changed : Bool
  /-- What is to be done, in order. -/
  actions : List Action
  deriving DecidableEq, Repr

namespace Coordinator

/-- The delay between asking the drawer to close and switching panes, in milliseconds. -/
def drawerCloseDelay : Nat := 300

/-- The event is ignored. -/
def ignore (state : Coordinator) : Outcome := ⟨state, false, []⟩

/-- The state stays as it is, and something is to be done. -/
def emit (state : Coordinator) (actions : List Action) : Outcome := ⟨state, false, actions⟩

/-- The action that posts an order. -/
def post (view : HostView) (order : Shelf.Order) : Action :=
  .postToShelf ⟨order, view.traceContext⟩

/-- Ask the active surface to close, if there is one. -/
def finishSurface (state : Coordinator) : Coordinator × List Action :=
  let (surfaces, command) := state.surfaces.finish
  ({ state with surfaces }, (command.map Action.surface).toList)

/-- Drop the selection of the visible list pane, if there is one, and tell the host. -/
def clearSelection (state : Coordinator) : Coordinator × List Action :=
  match state.list with
  | some list => ({ state with list := some list.clear }, [list.clear.chrome])
  | none => (state, [])

/-- Show the editor of a note, if the note exists. -/
def openNote (view : HostView) (state : Coordinator) (noteId : NoteId) : Outcome :=
  match view.note noteId with
  | none => state.ignore
  | some note =>
    let (state, finished) := state.finishSurface
    ⟨state, true, finished ++ [(Request.openNote note.bookId note.id).action]⟩

/-- Toggle an entry of the visible list pane, and let the surface follow. -/
def toggle (state : Coordinator) (id : ItemId) (descriptor : Option Surface.Descriptor) :
    Outcome :=
  match state.list with
  | none => state.ignore
  | some list =>
    let list := list.toggle id
    let (surfaces, command) :=
      match descriptor.or list.defaultDescriptor? with
      | some descriptor => state.surfaces.update list.selection.count descriptor
      | none => (state.surfaces, none)
    ⟨{ state with list := some list, surfaces }, true,
      (command.map Action.surface).toList ++ [list.chrome]⟩

/-- The host is created: show what the launch asks for, and keep the document it brings. -/
def coldStart (view : HostView) (state : Coordinator) (intent : Intent) : Outcome :=
  let arriving := intent.importAddress?.map (PendingImport.arriving · view.now)
  ⟨{ state with pendingImport := arriving.or state.pendingImport }, true,
    intent.launchRequests.map Request.action⟩

/-- The host comes to the foreground: offer the pending import once, synchronise, and show the
drawer to new users. -/
def resume (view : HostView) (state : Coordinator) (firstRun : Bool) : Outcome :=
  let prompt := (state.pendingImport.map Action.promptImport).toList
  let drawer := if firstRun then state.drawer.markOpen else state.drawer
  ⟨{ state with pendingImport := none, drawer }, true,
    prompt ++ post view .syncOnResume :: (if firstRun then [.openDrawer] else [])⟩

/-- The host is gone, and with it its panes, its surfaces and its tasks. -/
def hostDestroyed (state : Coordinator) : Outcome :=
  ⟨{ state with
      epoch := state.epoch + 1
      router := state.router.reset
      list := none
      surfaces := state.surfaces.reset
      structuralMoveRequested := false }, true, []⟩

/-- A broadcast shows the pane that it asks for, if it asks for one. -/
def broadcast (state : Coordinator) (intent : Intent) : Outcome :=
  state.emit (intent.broadcastRequest?.map Request.action).toList

/-- The drawer moved. On its edges the options menu and the title change. -/
def drawerSlide (state : Coordinator) (offset : Drawer.Offset) : Outcome :=
  let (drawer, edge) := state.drawer.slide offset
  match edge with
  | some .opened =>
    let (titleBar, text) := state.titleBar.drawerOpened
    ⟨{ state with drawer, titleBar }, true,
      [.invalidateOptionsMenu false, .setTitle text, .closeKeyboard]⟩
  | some .closed =>
    let (titleBar, text) := state.titleBar.drawerClosed
    ⟨{ state with drawer, titleBar }, true, [.invalidateOptionsMenu true, .setTitle text]⟩
  | none => ⟨{ state with drawer }, false, []⟩

/-- An entry of the drawer was clicked: close the drawer, and come back with the request when it is
closed. The active surface is finished and the selection dropped, except for a book, which may be
the one already shown. -/
def drawerItemClicked (state : Coordinator) (item : Drawer.Item) : Outcome :=
  let task : ScheduledTask := ⟨state.epoch, item.request⟩
  let closing : List Action := [.closeDrawer, .schedule drawerCloseDelay task]
  if item.isBook ∨ ¬ state.surfaces.isActive then
    state.emit closing
  else
    let (state, finished) := state.finishSurface
    let (state, cleared) := state.clearSelection
    ⟨state, true, finished ++ cleared ++ closing⟩

/-- Back was pressed. -/
def backPressed (view : HostView) (state : Coordinator) : Outcome :=
  match BackPress.decide state.drawer.isOpen view.needsConfirmation with
  | .drawerClosed => ⟨{ state with drawer := state.drawer.markClosed }, true, [.closeDrawer]⟩
  | .deferredToPane => state.ignore
  | .propagate => state.emit [.navigateBack]

/-- A pane became visible. A pane that is news ends what went on in the pane before it. -/
def paneAnnounced (state : Coordinator) (pane : Pane) (title subtitle : Option String) : Outcome :=
  let (state, finished) :=
    if state.router.isNews pane then
      let (state, finished) := state.finishSurface
      ({ state with list := listFor pane }, finished)
    else
      (state, [])
  let (titleBar, text) := state.titleBar.announce title subtitle state.drawer.isOpen
  let state := { state with titleBar, router := state.router.announce pane }
  ⟨state, true,
    finished ++ (text.map Action.setTitle).toList
      ++ [.applyPaneChrome pane.kind state.selectionCount]⟩

/-- The host removed all panes. -/
def panesCleared (state : Coordinator) : Outcome :=
  let (state, finished) := state.finishSurface
  ⟨{ state with router := state.router.reset, list := none }, true, finished⟩

/-- The visible pane dropped its selection. -/
def selectionCleared (state : Coordinator) : Outcome :=
  match state.list with
  | none => state.ignore
  | some _ =>
    let (state, finished) := state.finishSurface
    let (state, cleared) := state.clearSelection
    ⟨state, true, finished ++ cleared⟩

/-- A note is to be shown in its outline, if it exists. -/
def noteScrollRequested (view : HostView) (state : Coordinator) (noteId : NoteId) : Outcome :=
  match view.note noteId with
  | none => state.ignore
  | some note =>
    state.emit
      [post view (.sparseTree note.bookId note.id),
        (Request.openBook note.bookId (some note.id)).action]

/-- The host closed a surface. If structural commands were given while it was tagged for them, the
content store is asked to synchronise; if the user dismissed it, the selection goes too. Any close,
even of an unknown surface, uses up the structural commands given so far. -/
def surfaceClosed (view : HostView) (state : Coordinator) (surface : Surface.Id) : Outcome :=
  let (surfaces, closed) := state.surfaces.closed surface
  let moved := state.structuralMoveRequested
  let state := { state with surfaces, structuralMoveRequested := false }
  match closed with
  | none => state.ignore
  | some closed =>
    let synchronise : List Action :=
      if closed.tag = some .move ∧ moved then [post view .syncOnNoteUpdate] else []
    let (state, cleared) :=
      if closed.hostInitiated then state.clearSelection else (state, [])
    ⟨state, true, synchronise ++ cleared⟩

/-- A pane asks the content store for something. -/
def shelfRequest (state : Coordinator) (command : Shelf.Command) : Outcome :=
  ⟨{ state with
      structuralMoveRequested := state.structuralMoveRequested || command.order.isStructural },
    false, [.postToShelf command]⟩

/-- The content store reports how a command went. When the book on screen is gone, so are the
panes, and the list of books is shown instead. -/
def shelfResponse (state : Coordinator) (response : Shelf.Response) : Outcome :=
  let notifications := (response.notification?.map Action.notify).toList
  match response with
  | .bookDeleted bookId =>
    if state.router.current.bind Pane.bookId? = some bookId then
      let (state, finished) := state.finishSurface
      ⟨{ state with router := state.router.reset, list := none }, true,
        notifications ++ finished ++ [.clearPanes, (Request.openBooksList false).action]⟩
    else
      state.emit notifications
  | _ => state.emit notifications

/-- The user confirmed an import under a name. -/
def importConfirmed (view : HostView) (state : Coordinator) (name uri : String) : Outcome :=
  let name := Text.trimString name
  if name.isEmpty then
    state.emit [.notify "Name can not be empty"]
  else
    state.emit [post view (.importBook name uri)]

/-- A task came due. It is dropped if the host that asked for it is gone. -/
def taskFired (state : Coordinator) (task : ScheduledTask) : Outcome :=
  if task.epoch = state.epoch then state.emit [task.request.action] else state.ignore

/-- Handle one event. -/
def handle (view : HostView) (state : Coordinator) : Event → Outcome
  | .coldStart intent => state.coldStart view intent
  | .resumed firstRun => state.resume view firstRun
  | .hostDestroyed => state.hostDestroyed
  | .broadcast intent => state.broadcast intent
  | .broadcastPayload payload =>
    match Intent.ofText? payload with
    | some intent => state.broadcast intent
    | none => state.ignore
  | .navigate request => state.emit [request.action]
  | .drawerSlide offset => state.drawerSlide offset
  | .drawerItemClicked item => state.drawerItemClicked item
  | .backPressed => state.backPressed view
  | .searchOpened =>
    state.emit [.setSearchQuery (state.router.searchPrefill view.visiblePane view.bookName)]
  | .searchSubmitted query => state.emit [.collapseSearch, (Request.openQuery query).action]
  | .paneAnnounced pane title subtitle => state.paneAnnounced pane title subtitle
  | .panesCleared => state.panesCleared
  | .noteClicked noteId =>
    if state.reverseNoteClick ∨ 0 < state.selectionCount then
      state.toggle noteId.item none
    else
      state.openNote view noteId
  | .noteLongClicked noteId =>
    if state.reverseNoteClick then state.openNote view noteId else state.toggle noteId.item none
  | .itemToggled itemId descriptor => state.toggle itemId descriptor
  | .selectionCleared => state.selectionCleared
  | .noteScrollRequested noteId => state.noteScrollRequested view noteId
  | .bookClicked bookId => state.emit [.broadcast (.openBook bookId.raw)]
  | .actionSurfaceClosed surface => state.surfaceClosed view surface
  | .shelfRequest command => state.shelfRequest command
  | .shelfResponse response => state.shelfResponse response
  | .fileChosen uri =>
    ⟨{ state with pendingImport := some (.arriving uri view.now) }, true, []⟩
  | .importConfirmed name uri => state.importConfirmed view name uri
  | .scheduledTaskFired task => state.taskFired task

end Coordinator

end Panes
