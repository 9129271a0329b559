import Panes.Proofs.Run

/-!
# What each event can lead to

Every event leads to actions of a few kinds only. `Event.kinds` lists them, and `handle_within`
says that no event leads to any other. Two kinds come back to the coordinator, tasks that are put
off and broadcasts: only a click in the drawer puts a task off, and only a click on a book
broadcasts.
-/

namespace Panes

namespace Action

/-- What is to be done, without the particulars. -/
inductive Kind
  | display
  | clearPanes
  | surface
  | setTitle
  | applyPaneChrome
  | invalidateOptionsMenu
  | closeKeyboard
  | openDrawer
  | closeDrawer
  | collapseSearch
  | setSearchQuery
  | navigateBack
  | schedule
  | broadcast
  | postToShelf
  | notify
  | promptImport
  deriving DecidableEq, Repr

/-- The kind of an action. -/
@[simp]
def kind : Action → Kind
  | display _ _ => .display
  | clearPanes => .clearPanes
  | surface _ => .surface
  | setTitle _ => .setTitle
  | applyPaneChrome _ _ => .applyPaneChrome
  | invalidateOptionsMenu _ => .invalidateOptionsMenu
  | closeKeyboard => .closeKeyboard
  | openDrawer => .openDrawer
  | closeDrawer => .closeDrawer
  | collapseSearch => .collapseSearch
  | setSearchQuery _ => .setSearchQuery
  | navigateBack => .navigateBack
  | schedule _ _ => .schedule
  | broadcast _ => .broadcast
  | postToShelf _ => .postToShelf
  | notify _ => .notify
  | promptImport _ => .promptImport

/-- All actions are of the given kinds. -/
def Within (kinds : List Kind) (actions : List Action) : Prop :=
  ∀ action ∈ actions, action.kind ∈ kinds

variable {kinds : List Kind} {actions : List Action}

@[simp]
theorem within_nil : Within kinds [] := by simp [Within]

@[simp]
theorem within_cons {action : Action} :
    Within kinds (action :: actions) ↔ action.kind ∈ kinds ∧ Within kinds actions := by
  simp [Within]

@[simp]
theorem within_append {more : List Action} :
    Within kinds (actions ++ more) ↔ Within kinds actions ∧ Within kinds more := by
  simp only [Within, List.forall_mem_append]

theorem Within.mono {more : List Kind} (within : Within kinds actions) (subset : kinds ⊆ more) :
    Within more actions :=
  fun action member => subset (within action member)

theorem within_optional {α : Type} {action : α → Action} {value : Option α}
    (known : ∀ value, (action value).kind ∈ kinds) :
    Within kinds (value.map action).toList := by
  cases value with
  | none => exact within_nil
  | some value => simpa using known value

/-- Of other kinds there is nothing. -/
theorem filter_kind_of_within {others : List Kind} (within : Within kinds actions)
    (apart : ∀ kind ∈ others, kind ∉ kinds) : actions.filter (·.kind ∈ others) = [] := by
  rw [List.filter_eq_nil_iff]
  intro action member wanted
  exact apart action.kind (of_decide_eq_true wanted) (within action member)

/-- What can be read off these kinds only is read off the rest alike. -/
theorem filterMap_filter_kind {α : Type} {read : Action → Option α}
    (known : ∀ action : Action, (read action).isSome = true → action.kind ∈ kinds) :
    (actions.filter (·.kind ∈ kinds)).filterMap read = actions.filterMap read := by
  rw [List.filterMap_filter]
  congr 1
  funext action
  by_cases member : action.kind ∈ kinds
  · rw [if_pos (decide_eq_true member)]
  · have silent : read action = none := by
      rw [← Option.not_isSome_iff_eq_none]
      exact mt (known action) member
    rw [silent, ite_self]

/-- The action comes back to the coordinator. All others are for the host. -/
def comesBack : Action → Bool
  | schedule _ _ | broadcast _ => true
  | _ => false

theorem filter_comesBack_of_within (within : Within kinds actions) (unscheduled : .schedule ∉ kinds)
    (silent : .broadcast ∉ kinds) : actions.filter comesBack = [] := by
  rw [List.filter_eq_nil_iff]
  intro action member returns
  have known : action.kind ∈ kinds := within action member
  cases action with
  | schedule delayMs task => exact unscheduled known
  | broadcast intent => exact silent known
  | _ => cases returns

end Action

/-- The kinds of actions that an event can lead to. -/
@[simp]
def Event.kinds : Event → List Action.Kind
  | .coldStart _ | .broadcast _ | .broadcastPayload _ | .navigate _ | .scheduledTaskFired _ =>
    [.display]
  | .resumed _ => [.promptImport, .postToShelf, .openDrawer]
  | .hostDestroyed | .fileChosen _ => []
  | .drawerSlide _ => [.invalidateOptionsMenu, .setTitle, .closeKeyboard]
  | .drawerItemClicked _ => [.surface, .applyPaneChrome, .closeDrawer, .schedule]
  | .backPressed => [.closeDrawer, .navigateBack]
  | .searchOpened => [.setSearchQuery]
  | .searchSubmitted _ => [.collapseSearch, .display]
  | .paneAnnounced _ _ _ => [.surface, .setTitle, .applyPaneChrome]
  | .panesCleared => [.surface]
  | .noteClicked _ | .noteLongClicked _ => [.surface, .applyPaneChrome, .display]
  | .itemToggled _ _ | .selectionCleared => [.surface, .applyPaneChrome]
  | .noteScrollRequested _ => [.postToShelf, .display]
  | .bookClicked _ => [.broadcast]
  | .actionSurfaceClosed _ => [.postToShelf, .applyPaneChrome]
  | .shelfRequest _ => [.postToShelf]
  | .shelfResponse _ => [.notify, .surface, .clearPanes, .display]
  | .importConfirmed _ _ => [.notify, .postToShelf]

namespace Coordinator

open Panes.Action

theorem within_displays {kinds : List Kind} (known : .display ∈ kinds) (requests : List Request) :
    Within kinds (requests.map Request.action) := by
  intro action member
  obtain ⟨request, -, rfl⟩ := List.mem_map.mp member
  exact known

theorem within_finishSurface {kinds : List Kind} (known : .surface ∈ kinds) (state : Coordinator) :
    Within kinds state.finishSurface.2 :=
  within_optional fun _ => known

theorem within_clearSelection {kinds : List Kind} (known : .applyPaneChrome ∈ kinds)
    (state : Coordinator) : Within kinds state.clearSelection.2 := by
  unfold clearSelection
  cases state.list with
  | none => exact within_nil
  | some list => exact within_cons.mpr ⟨known, within_nil⟩

theorem openNote_within (view : HostView) (state : Coordinator) (noteId : NoteId) :
    Within (Event.noteClicked noteId).kinds (state.openNote view noteId).actions := by
  unfold openNote
  cases view.note noteId with
  | none => exact within_nil
  | some note =>
    refine within_append.mpr ⟨within_finishSurface (by simp) _, ?_⟩
    simp [Request.action]

theorem toggle_within (state : Coordinator) (id : ItemId)
    (descriptor : Option Surface.Descriptor) :
    Within (Event.itemToggled id descriptor).kinds (state.toggle id descriptor).actions := by
  unfold toggle
  cases state.list with
  | none => exact within_nil
  | some list =>
    refine within_append.mpr ⟨within_optional fun _ => ?_, ?_⟩
    · simp
    · simp [ListPane.chrome]

theorem resume_within (view : HostView) (state : Coordinator) (firstRun : Bool) :
    Within (Event.resumed firstRun).kinds (state.resume view firstRun).actions := by
  refine within_append.mpr ⟨within_optional fun _ => ?_, ?_⟩
  · simp
  · cases firstRun <;> simp [post]

theorem broadcast_within (state : Coordinator) (intent : Intent) :
    Within (Event.broadcast intent).kinds (state.broadcast intent).actions :=
  within_optional fun request => by simp [Request.action]

theorem drawerSlide_within (state : Coordinator) (offset : Drawer.Offset) :
    Within (Event.drawerSlide offset).kinds (state.drawerSlide offset).actions := by
  unfold drawerSlide
  rcases state.drawer.slide offset with ⟨drawer, _ | _ | _⟩ <;> simp

theorem drawerItemClicked_within (state : Coordinator) (item : Drawer.Item) :
    Within (Event.drawerItemClicked item).kinds (state.drawerItemClicked item).actions := by
  have closing (task : ScheduledTask) : Within (Event.drawerItemClicked item).kinds
      [.closeDrawer, .schedule drawerCloseDelay task] := by simp
  unfold drawerItemClicked
  dsimp only
  split
  · exact closing _
  · refine within_append.mpr ⟨within_append.mpr ⟨?_, ?_⟩, closing _⟩
    · exact within_finishSurface (by simp) _
    · exact within_clearSelection (by simp) _

theorem backPressed_within (view : HostView) (state : Coordinator) :
    Within Event.backPressed.kinds (state.backPressed view).actions := by
  unfold backPressed
  cases BackPress.decide state.drawer.isOpen view.needsConfirmation <;> simp [ignore, emit]

theorem paneAnnounced_within (state : Coordinator) (pane : Pane) (title subtitle : Option String) :
    Within (Event.paneAnnounced pane title subtitle).kinds
      (state.paneAnnounced pane title subtitle).actions := by
  have surface_known : Kind.surface ∈ (Event.paneAnnounced pane title subtitle).kinds := by simp
  unfold paneAnnounced
  dsimp only
  refine within_append.mpr ⟨within_append.mpr ⟨?_, within_optional fun _ => ?_⟩, ?_⟩
  · split
    · exact within_finishSurface surface_known _
    · exact within_nil
  · simp
  · simp

theorem selectionCleared_within (state : Coordinator) :
    Within Event.selectionCleared.kinds state.selectionCleared.actions := by
  unfold selectionCleared
  cases state.list with
  | none => exact within_nil
  | some list =>
    exact within_append.mpr
      ⟨within_finishSurface (by decide) _, within_clearSelection (by decide) _⟩

theorem noteScrollRequested_within (view : HostView) (state : Coordinator) (noteId : NoteId) :
    Within (Event.noteScrollRequested noteId).kinds
      (state.noteScrollRequested view noteId).actions := by
  unfold noteScrollRequested
  cases view.note noteId <;> simp [ignore, emit, post, Request.action]

theorem surfaceClosed_within (view : HostView) (state : Coordinator) (surface : Surface.Id) :
    Within (Event.actionSurfaceClosed surface).kinds
      (state.surfaceClosed view surface).actions := by
  unfold surfaceClosed
  rcases state.surfaces.closed surface with ⟨surfaces, closed⟩
  cases closed with
  | none => exact within_nil
  | some closed =>
    refine within_append.mpr ⟨?_, ?_⟩
    · split <;> simp [post]
    · split
      · exact within_clearSelection (by simp) _
      · exact within_nil

theorem shelfResponse_within (state : Coordinator) (response : Shelf.Response) :
    Within (Event.shelfResponse response).kinds (state.shelfResponse response).actions := by
  have notifications : Within (Event.shelfResponse response).kinds
      (response.notification?.map Action.notify).toList :=
    within_optional fun _ => by simp
  unfold shelfResponse
  cases response with
  | bookDeleted bookId =>
    dsimp only
    split
    · refine within_append.mpr ⟨within_append.mpr ⟨notifications, ?_⟩, ?_⟩
      · exact within_finishSurface (by simp) _
      · simp [Request.action]
    · exact notifications
  | _ => exact notifications

theorem importConfirmed_within (view : HostView) (state : Coordinator) (name uri : String) :
    Within (Event.importConfirmed name uri).kinds
      (state.importConfirmed view name uri).actions := by
  unfold importConfirmed
  dsimp only
  split <;> simp [emit, post]

theorem taskFired_within (state : Coordinator) (task : ScheduledTask) :
    Within (Event.scheduledTaskFired task).kinds (state.taskFired task).actions := by
  unfold taskFired
  split <;> simp [ignore, emit, Request.action]

/-- An event leads to actions of its own kinds only. -/
theorem handle_within (view : HostView) (state : Coordinator) (event : Event) :
    Within event.kinds (state.handle view event).actions := by
  cases event with
  | coldStart intent => exact within_displays (by simp) intent.launchRequests
  | resumed firstRun => exact state.resume_within view firstRun
  | hostDestroyed | fileChosen _ => exact within_nil
  | broadcast intent => exact state.broadcast_within intent
  | broadcastPayload payload =>
    simp only [handle]
    cases Intent.ofText? payload with
    | none => exact within_nil
    | some intent => exact state.broadcast_within intent
  | drawerSlide offset => exact state.drawerSlide_within offset
  | drawerItemClicked item => exact state.drawerItemClicked_within item
  | backPressed => exact state.backPressed_within view
  | paneAnnounced pane title subtitle => exact state.paneAnnounced_within pane title subtitle
  | panesCleared => exact within_finishSurface (by decide) state
  | noteClicked noteId =>
    simp only [handle]
    split
    · exact (state.toggle_within _ _).mono (by simp)
    · exact state.openNote_within view noteId
  | noteLongClicked noteId =>
    simp only [handle]
    split
    · exact state.openNote_within view noteId
    · exact (state.toggle_within _ _).mono (by simp)
  | itemToggled itemId descriptor => exact state.toggle_within itemId descriptor
  | selectionCleared => exact state.selectionCleared_within
  | noteScrollRequested noteId => exact state.noteScrollRequested_within view noteId
  | actionSurfaceClosed surface => exact state.surfaceClosed_within view surface
  | shelfResponse response => exact state.shelfResponse_within response
  | importConfirmed name uri => exact state.importConfirmed_within view name uri
  | scheduledTaskFired task => exact state.taskFired_within task
  | navigate _ | searchOpened | searchSubmitted _ | bookClicked _ | shelfRequest _ =>
    simp [handle, emit, shelfRequest, Request.action]

/-! ## What comes back -/

/-- What comes back after an event. -/
def returning (state : Coordinator) : Event → List Action
  | .drawerItemClicked item => [.schedule drawerCloseDelay ⟨state.epoch, item.request⟩]
  | .bookClicked bookId => [.broadcast (.openBook bookId.raw)]
  | _ => []

theorem comesBack_drawerItemClicked (state : Coordinator) (item : Drawer.Item) :
    (state.drawerItemClicked item).actions.filter comesBack =
      [.schedule drawerCloseDelay ⟨state.epoch, item.request⟩] := by
  have finished : Within [.surface] state.finishSurface.2 := within_finishSurface (by decide) _
  have cleared : Within [.applyPaneChrome] state.finishSurface.1.clearSelection.2 :=
    within_clearSelection (by decide) _
  unfold drawerItemClicked
  dsimp only
  split
  · rfl
  · rw [List.filter_append, List.filter_append,
      filter_comesBack_of_within finished (by decide) (by decide),
      filter_comesBack_of_within cleared (by decide) (by decide)]
    rfl

/-- After an event just that comes back. -/
theorem comesBack_handle (view : HostView) (state : Coordinator) (event : Event) :
    (state.handle view event).actions.filter comesBack = state.returning event := by
  cases event with
  | drawerItemClicked item => exact state.comesBack_drawerItemClicked item
  | bookClicked bookId => rfl
  | _ => exact filter_comesBack_of_within (handle_within _ _ _) (by simp) (by simp)

end Coordinator

end Panes
