import Panes.Proofs.Effect
import Panes.Proofs.Frame

/-!
# What the selection stands before

Apart from the selection and its surfaces the state has three parts, and each goes its own way: the
frame, the router, and what panes have no part in, that is the setting for clicks, the pending
import, the wish for a synchronisation and the number of the host. `Background.next` says how, and
`background_handle` that the coordinator follows it. Together with `applied_handle` it tells what
every event makes of the whole state.
-/

namespace Panes

/-- What panes, their selection and their surfaces have no part in. -/
structure Standing where
  /-- A click selects and a long press opens. -/
  reverseNoteClick : Bool
  /-- The document that waits for the host to come to the foreground. -/
  pendingImport : Option PendingImport
  /-- A structural command was asked for since a surface closed last. -/
  structuralMoveRequested : Bool
  /-- How many hosts were torn down. -/
  epoch : Nat
  deriving DecidableEq, Repr

/-- What an event makes of it. -/
def Standing.next (view : HostView) (standing : Standing) : Event → Standing
  | .coldStart intent =>
    let arriving := intent.importAddress?.map (PendingImport.arriving · view.now)
    { standing with pendingImport := arriving.or standing.pendingImport }
  | .resumed _ => { standing with pendingImport := none }
  | .fileChosen uri => { standing with pendingImport := some (.arriving uri view.now) }
  | .hostDestroyed =>
    { standing with structuralMoveRequested := false, epoch := standing.epoch + 1 }
  | .actionSurfaceClosed _ => { standing with structuralMoveRequested := false }
  | .shelfRequest command =>
    { standing with
      structuralMoveRequested := standing.structuralMoveRequested || command.order.isStructural }
  | _ => standing

/-- What an event makes of the router. -/
def Router.next (router : Router) : Event → Router
  | .paneAnnounced pane _ _ => router.announce pane
  | .panesCleared | .hostDestroyed => router.reset
  | .shelfResponse (.bookDeleted bookId) =>
    if router.current.bind Pane.bookId? = some bookId then router.reset else router
  | _ => router

/-- The state apart from the selection and its surfaces. -/
structure Background where
  /-- What panes have no part in. -/
  standing : Standing
  /-- The pane that announced itself last. -/
  router : Router
  /-- The drawer and the title bar. -/
  frame : Frame
  deriving DecidableEq, Repr

/-- What an event makes of the background. -/
def Background.next (view : HostView) (background : Background) (event : Event) : Background :=
  ⟨background.standing.next view event, background.router.next event,
    (background.frame.next event).1⟩

namespace Coordinator

/-- The part of the state that panes have no part in. -/
def standing (state : Coordinator) : Standing :=
  ⟨state.reverseNoteClick, state.pendingImport, state.structuralMoveRequested, state.epoch⟩

/-- The background in the state. -/
def background (state : Coordinator) : Background := ⟨state.standing, state.router, state.frame⟩

section

variable (view : HostView) (state : Coordinator)

/-! ## Handlers that leave it alone -/

@[simp]
theorem background_clearSelection : state.clearSelection.1.background = state.background := by
  rw [clearSelection]
  cases state.list <;> rfl

/-- To finish the surface and drop the selection concerns nothing else. -/
theorem background_finish_clear :
    state.finishSurface.1.clearSelection.1.background = state.background :=
  background_clearSelection _

theorem background_openNote (noteId : NoteId) :
    (state.openNote view noteId).state.background = state.background := by
  rw [openNote]
  cases view.note noteId <;> rfl

theorem background_toggle (id : ItemId) (descriptor : Option Surface.Descriptor) :
    (state.toggle id descriptor).state.background = state.background := by
  rw [toggle]
  cases state.list <;> rfl

theorem background_drawerItemClicked (item : Drawer.Item) :
    (state.drawerItemClicked item).state.background = state.background := by
  rw [drawerItemClicked]
  split
  · rfl
  · exact state.background_finish_clear

theorem background_selectionCleared :
    state.selectionCleared.state.background = state.background := by
  rw [selectionCleared]
  cases state.list with
  | none => rfl
  | some list => exact state.background_finish_clear

/-! ## Handlers that change it -/

theorem background_resume (firstRun : Bool) :
    (state.resume view firstRun).state.background =
      state.background.next view (.resumed firstRun) := by
  cases firstRun <;> rfl

theorem background_drawerSlide (offset : Drawer.Offset) :
    (state.drawerSlide offset).state.background =
      state.background.next view (.drawerSlide offset) := by
  have next_eq : state.background.next view (.drawerSlide offset) =
      ⟨state.standing, state.router, (state.frame.slide offset).1⟩ := rfl
  have drawer_eq : state.frame.drawer = state.drawer := rfl
  rw [next_eq, drawerSlide, Frame.slide, drawer_eq]
  rcases state.drawer.slide offset with ⟨drawer, _ | _ | _⟩ <;> rfl

theorem background_backPressed :
    (state.backPressed view).state.background = state.background.next view .backPressed := by
  have next_eq : state.background.next view .backPressed =
      ⟨state.standing, state.router, { state.frame with drawer := state.drawer.markClosed }⟩ := rfl
  rw [next_eq, backPressed]
  cases isOpen : state.drawer.isOpen with
  | true => rfl
  | false =>
    -- A drawer that is not open is closed already, so the press may as well mark it.
    have marked : state.drawer.markClosed = state.drawer := by
      rw [Drawer.markClosed, ← isOpen]
    rw [marked]
    cases view.needsConfirmation <;> rfl

theorem background_paneAnnounced (pane : Pane) (title subtitle : Option String) :
    (state.paneAnnounced pane title subtitle).state.background =
      state.background.next view (.paneAnnounced pane title subtitle) := by
  rw [paneAnnounced]
  cases state.router.isNews pane <;> rfl

theorem background_surfaceClosed (surface : Surface.Id) :
    (state.surfaceClosed view surface).state.background =
      state.background.next view (.actionSurfaceClosed surface) := by
  rw [surfaceClosed]
  rcases state.surfaces.closed surface with ⟨surfaces, _ | closed⟩
  · rfl
  · cases dismissed : closed.hostInitiated with
    | false => simp only [dismissed]; rfl
    | true => simp only [dismissed]; exact background_clearSelection _

theorem background_shelfResponse (response : Shelf.Response) :
    (state.shelfResponse response).state.background =
      state.background.next view (.shelfResponse response) := by
  cases response with
  | bookDeleted bookId =>
    have router_eq : state.background.router = state.router := rfl
    rw [shelfResponse, Background.next, Router.next, router_eq]
    split <;> rfl
  | _ => rfl

/-! ## All handlers -/

/-- Every event makes of the background what `Background.next` says. -/
theorem background_handle (event : Event) :
    (state.handle view event).state.background = state.background.next view event := by
  cases event with
  | broadcastPayload payload =>
    exact congrArg background (state.state_broadcastPayload view payload)
  | resumed firstRun => exact state.background_resume view firstRun
  | drawerSlide offset => exact state.background_drawerSlide view offset
  | drawerItemClicked item => exact state.background_drawerItemClicked item
  | backPressed => exact state.background_backPressed view
  | paneAnnounced pane title subtitle =>
    exact state.background_paneAnnounced view pane title subtitle
  | noteClicked noteId =>
    rw [handle]
    split
    · exact state.background_toggle _ _
    · exact state.background_openNote view noteId
  | noteLongClicked noteId =>
    rw [handle]
    split
    · exact state.background_openNote view noteId
    · exact state.background_toggle _ _
  | itemToggled itemId descriptor => exact state.background_toggle itemId descriptor
  | selectionCleared => exact state.background_selectionCleared
  | noteScrollRequested noteId =>
    exact congrArg background (state.state_noteScrollRequested view noteId)
  | actionSurfaceClosed surface => exact state.background_surfaceClosed view surface
  | shelfResponse response => exact state.background_shelfResponse view response
  | importConfirmed name uri =>
    exact congrArg background (state.state_importConfirmed view name uri)
  | scheduledTaskFired task => exact congrArg background (state.state_taskFired task)
  | coldStart _ | hostDestroyed | broadcast _ | navigate _ | searchOpened | searchSubmitted _
  | panesCleared | bookClicked _ | shelfRequest _ | fileChosen _ => rfl

theorem standing_handle (event : Event) :
    (state.handle view event).state.standing = state.standing.next view event :=
  congrArg Background.standing (state.background_handle view event)

theorem router_handle (event : Event) :
    (state.handle view event).state.router = state.router.next event :=
  congrArg Background.router (state.background_handle view event)

theorem frame_handle (event : Event) :
    (state.handle view event).state.frame = (state.frame.next event).1 :=
  congrArg Background.frame (state.background_handle view event)

end

theorem reverseNoteClick_handle (view : HostView) (state : Coordinator) (event : Event) :
    (state.handle view event).state.reverseNoteClick = state.reverseNoteClick := by
  have next_eq := congrArg Standing.reverseNoteClick (standing_handle view state event)
  have kept : (state.standing.next view event).reverseNoteClick = state.reverseNoteClick := by
    cases event <;> rfl
  exact next_eq.trans kept

end Coordinator

end Panes
