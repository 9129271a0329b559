import Panes.Proofs.Run

/-!
# What events mean for the selection

The selection of the visible list pane and the surface shown for it change together, and there are
only seven ways in which an event can change them. `Coordinator.effect` says which way an event
takes, `Effect.apply` what becomes of the two, and `applied_handle` that nothing else happens to
them. What is kept by each of the seven is kept by every event.
-/

namespace Panes

/-- The list pane with its selection, and the surfaces. -/
structure Focus where
  /-- The visible list pane, if a list pane is visible. -/
  list : Option ListPane
  /-- The surfaces of the current host. -/
  surfaces : Surface.Controller
  deriving DecidableEq, Repr

namespace Focus

/-- What is selected in the visible list pane. Without a list pane that is nothing. -/
def selection (focus : Focus) : Selection :=
  match focus.list with
  | some list => list.selection
  | none => .empty

theorem selection_of_none {focus : Focus} (unlisted : focus.list = none) :
    focus.selection = .empty := by
  rw [selection, unlisted]

theorem selection_of_some {focus : Focus} {list : ListPane} (listed : focus.list = some list) :
    focus.selection = list.selection := by
  rw [selection, listed]

@[simp]
theorem selection_clear (list : Option ListPane) (surfaces : Surface.Controller) :
    selection ⟨list.map ListPane.clear, surfaces⟩ = .empty := by
  cases list <;> rfl

end Focus

/-- The part of the state that the selection and its surface make up. -/
def Coordinator.focus (state : Coordinator) : Focus := ⟨state.list, state.surfaces⟩

/-- The number of selected entries counts what is selected in the visible list pane. -/
theorem Coordinator.selectionCount_eq (state : Coordinator) :
    state.selectionCount = state.focus.selection.count := by
  cases listed : state.list with
  | none => rw [selectionCount_of_none listed, Focus.selection_of_none listed]; rfl
  | some list => rw [selectionCount_of_some listed, Focus.selection_of_some listed]

/-- A way in which an event can change the selection and its surface. -/
inductive Effect
  /-- Nothing changes. -/
  | keep
  /-- An entry is toggled, and the surface follows. -/
  | toggle (id : ItemId) (descriptor : Option Surface.Descriptor)
  /-- The surface is finished, and the selection stays. -/
  | finish
  /-- The surface is finished, and the selection is dropped. -/
  | clear
  /-- The surface is finished, and another pane takes the place of the list pane. -/
  | replace (pane : Option Pane)
  /-- The host reports that a surface closed. -/
  | close (surface : Surface.Id)
  /-- The host is gone. -/
  | tearDown
  deriving DecidableEq, Repr

namespace Effect

/-- What becomes of the selection and its surface, and the command that the host gets. -/
def apply (focus : Focus) : Effect → Focus × Option Surface.Command
  | keep => (focus, none)
  | toggle id descriptor =>
    match focus.list with
    | none => (focus, none)
    | some list =>
      match descriptor.or list.defaultDescriptor? with
      | none => (⟨some (list.toggle id), focus.surfaces⟩, none)
      | some descriptor =>
        let (surfaces, command) := focus.surfaces.update (list.toggle id).selection.count descriptor
        (⟨some (list.toggle id), surfaces⟩, command)
  | finish => (⟨focus.list, focus.surfaces.finish.1⟩, focus.surfaces.finish.2)
  | clear => (⟨focus.list.map ListPane.clear, focus.surfaces.finish.1⟩, focus.surfaces.finish.2)
  | replace pane =>
    (⟨pane.bind Coordinator.listFor, focus.surfaces.finish.1⟩, focus.surfaces.finish.2)
  | close surface =>
    let (surfaces, closed) := focus.surfaces.closed surface
    let dismissed := closed.any (·.hostInitiated)
    (⟨if dismissed then focus.list.map ListPane.clear else focus.list, surfaces⟩, none)
  | tearDown => (⟨none, focus.surfaces.reset⟩, none)

end Effect

namespace Coordinator

/-- Opening a note finishes the surface, if the note exists. -/
def opening (view : HostView) (noteId : NoteId) : Effect :=
  match view.note noteId with
  | some _ => .finish
  | none => .keep

/-- The way that an event takes. -/
def effect (view : HostView) (state : Coordinator) : Event → Effect
  | .hostDestroyed => .tearDown
  | .drawerItemClicked item =>
    if item.isBook ∨ ¬ state.surfaces.isActive then .keep else .clear
  | .paneAnnounced pane _ _ => if state.router.isNews pane then .replace (some pane) else .keep
  | .panesCleared => .replace none
  | .noteClicked noteId =>
    if state.reverseNoteClick ∨ 0 < state.selectionCount then
      .toggle noteId.item none
    else
      opening view noteId
  | .noteLongClicked noteId =>
    if state.reverseNoteClick then opening view noteId else .toggle noteId.item none
  | .itemToggled itemId descriptor => .toggle itemId descriptor
  | .selectionCleared => if state.list.isSome then .clear else .keep
  | .actionSurfaceClosed surface => .close surface
  | .shelfResponse (.bookDeleted bookId) =>
    if state.router.current.bind Pane.bookId? = some bookId then .replace none else .keep
  | _ => .keep

end Coordinator

/-- The command to the host in an action. -/
def Action.surfaceCommand? : Action → Option Surface.Command
  | .surface command => some command
  | _ => none

/-- The commands to the host among the actions of an outcome. -/
def Outcome.surfaceCommands (outcome : Outcome) : List Surface.Command :=
  outcome.actions.filterMap Action.surfaceCommand?

namespace Coordinator

section

variable (view : HostView) (state : Coordinator)

/-! ## Handlers that leave the whole state alone -/

theorem state_noteScrollRequested (noteId : NoteId) :
    (state.noteScrollRequested view noteId).state = state := by
  rw [noteScrollRequested]
  cases view.note noteId <;> rfl

theorem state_importConfirmed (name uri : String) :
    (state.importConfirmed view name uri).state = state := by
  rw [importConfirmed]
  split <;> rfl

theorem state_taskFired (task : ScheduledTask) : (state.taskFired task).state = state := by
  rw [taskFired]
  split <;> rfl

theorem state_broadcastPayload (payload : String) :
    (state.handle view (.broadcastPayload payload)).state = state := by
  rw [handle]
  cases Intent.ofText? payload <;> rfl

/-! ## Selection and surface after an event -/

theorem focus_clearSelection :
    state.clearSelection.1.focus = ⟨state.list.map ListPane.clear, state.surfaces⟩ := by
  unfold clearSelection
  cases listed : state.list <;> simp [focus, listed]

/-- Clicks in the drawer and lost selections finish the surface and then drop the selection. -/
theorem applied_finish_clear :
    state.finishSurface.1.clearSelection.1.focus = (Effect.clear.apply state.focus).1 :=
  focus_clearSelection _

theorem applied_openNote (noteId : NoteId) :
    (state.openNote view noteId).state.focus = ((opening view noteId).apply state.focus).1 := by
  unfold openNote opening
  cases view.note noteId <;> rfl

theorem applied_toggle (id : ItemId) (descriptor : Option Surface.Descriptor) :
    (state.toggle id descriptor).state.focus =
      ((Effect.toggle id descriptor).apply state.focus).1 := by
  unfold toggle
  cases listed : state.list with
  | none => simp [Effect.apply, focus, listed, ignore]
  | some list =>
    have default_eq : (list.toggle id).defaultDescriptor? = list.defaultDescriptor? := rfl
    cases offered : descriptor.or list.defaultDescriptor? <;>
      simp [Effect.apply, focus, listed, default_eq, offered]

theorem focus_drawerSlide (offset : Drawer.Offset) :
    (state.drawerSlide offset).state.focus = state.focus := by
  unfold drawerSlide
  rcases state.drawer.slide offset with ⟨drawer, _ | _ | _⟩ <;> rfl

theorem focus_backPressed : (state.backPressed view).state.focus = state.focus := by
  unfold backPressed
  cases BackPress.decide state.drawer.isOpen view.needsConfirmation <;> rfl

theorem applied_drawerItemClicked (item : Drawer.Item) :
    (state.drawerItemClicked item).state.focus =
      ((state.effect view (.drawerItemClicked item)).apply state.focus).1 := by
  rw [drawerItemClicked, effect]
  split
  · rfl
  · exact state.applied_finish_clear

theorem applied_paneAnnounced (pane : Pane) (title subtitle : Option String) :
    (state.paneAnnounced pane title subtitle).state.focus =
      ((state.effect view (.paneAnnounced pane title subtitle)).apply state.focus).1 := by
  rw [paneAnnounced, effect]
  cases state.router.isNews pane <;> rfl

theorem applied_selectionCleared :
    state.selectionCleared.state.focus =
      ((state.effect view .selectionCleared).apply state.focus).1 := by
  rw [selectionCleared, effect]
  cases state.list with
  | none => rfl
  | some list => exact state.applied_finish_clear

theorem applied_surfaceClosed (surface : Surface.Id) :
    (state.surfaceClosed view surface).state.focus =
      ((Effect.close surface).apply state.focus).1 := by
  unfold surfaceClosed
  rcases reported : state.surfaces.closed surface with ⟨surfaces, _ | closed⟩
  · simp [Effect.apply, focus, ignore, reported]
  · cases dismissed : closed.hostInitiated with
    | false => simp [Effect.apply, focus, reported, dismissed]
    | true =>
      simp only [Effect.apply, focus, reported, dismissed, Option.any_some, if_true]
      exact focus_clearSelection _

theorem applied_shelfResponse (response : Shelf.Response) :
    (state.shelfResponse response).state.focus =
      ((state.effect view (.shelfResponse response)).apply state.focus).1 := by
  cases response with
  | bookDeleted bookId =>
    rw [shelfResponse, effect]
    split <;> rfl
  | _ => rfl

/-- Every event changes selection and surface as its effect says, and no other way. -/
theorem applied_handle (event : Event) :
    (state.handle view event).state.focus = ((state.effect view event).apply state.focus).1 := by
  cases event with
  | broadcastPayload payload => exact congrArg focus (state.state_broadcastPayload view payload)
  | drawerSlide offset => exact state.focus_drawerSlide offset
  | drawerItemClicked item => exact state.applied_drawerItemClicked view item
  | backPressed => exact state.focus_backPressed view
  | paneAnnounced pane title subtitle => exact state.applied_paneAnnounced view pane title subtitle
  | noteClicked noteId =>
    rw [handle, effect]
    split
    · exact state.applied_toggle _ _
    · exact state.applied_openNote view noteId
  | noteLongClicked noteId =>
    rw [handle, effect]
    split
    · exact state.applied_openNote view noteId
    · exact state.applied_toggle _ _
  | itemToggled itemId descriptor => exact state.applied_toggle itemId descriptor
  | selectionCleared => exact state.applied_selectionCleared view
  | noteScrollRequested noteId =>
    exact congrArg focus (state.state_noteScrollRequested view noteId)
  | actionSurfaceClosed surface => exact state.applied_surfaceClosed view surface
  | shelfResponse response => exact state.applied_shelfResponse view response
  | importConfirmed name uri => exact congrArg focus (state.state_importConfirmed view name uri)
  | scheduledTaskFired task => exact congrArg focus (state.state_taskFired task)
  | coldStart _ | resumed _ | hostDestroyed | broadcast _ | navigate _ | searchOpened
  | searchSubmitted _ | panesCleared | bookClicked _ | shelfRequest _ | fileChosen _ => rfl

end

/-! ## Which events close surfaces -/

theorem opening_ne_close (view : HostView) (noteId : NoteId) (surface : Surface.Id) :
    opening view noteId ≠ .close surface := by
  unfold opening
  cases view.note noteId <;> simp

theorem opening_ne_tearDown (view : HostView) (noteId : NoteId) :
    opening view noteId ≠ .tearDown := by
  unfold opening
  cases view.note noteId <;> simp

/-- Only the report of a surface closes it. -/
theorem effect_eq_close_iff {view : HostView} {state : Coordinator} {event : Event}
    {surface : Surface.Id} :
    state.effect view event = .close surface ↔ event = .actionSurfaceClosed surface := by
  fun_cases effect view state event <;> simp_all [opening_ne_close]

/-- Only the end of the host tears the surfaces down. -/
theorem effect_eq_tearDown_iff {view : HostView} {state : Coordinator} {event : Event} :
    state.effect view event = .tearDown ↔ event = .hostDestroyed := by
  fun_cases effect view state event <;> simp_all [opening_ne_tearDown]

end Coordinator

namespace Moment

/-- The way that the event of a moment takes. -/
def effect (moment : Moment) : Effect := moment.before.effect moment.view moment.event

/-- The command that the host gets at a moment. -/
def command? (moment : Moment) : Option Surface.Command :=
  (moment.effect.apply moment.before.focus).2

/-- The host gets the command at this moment. -/
def Emits (moment : Moment) (command : Surface.Command) : Prop :=
  .surface command ∈ moment.outcome.actions

theorem focus_after (moment : Moment) :
    moment.after.focus = (moment.effect.apply moment.before.focus).1 :=
  moment.before.applied_handle moment.view moment.event

end Moment

end Panes
