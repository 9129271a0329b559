import Panes.Proofs.Effect
import Panes.Proofs.Session.Delivery
import Panes.Proofs.Surface.Tracking

/-!
# Changes that are not reported

Every outcome says whether the event counts as a change. An event that does not count leaves the
state as it is, except that three kinds of event leave a note without saying so: a sample of the
drawer that makes no edge is remembered as the last one, a structural command is remembered until a
surface closes, and a report on a surface that is not tracked uses up the structural commands given
so far. `Coordinator.noted` is the state with that note, and `unreported_iff` says when it is
another one.
-/

namespace Panes

open Surface

theorem Surface.Controller.closed_of_unanswered {controller : Controller} {surface : Id}
    (unanswered : (controller.closed surface).2 = none) :
    (controller.closed surface).1 = controller := by
  revert unanswered
  fun_cases controller.closed surface <;> simp

/-- A report is left unanswered exactly if it is on no tracked surface. -/
theorem Surface.Controller.closed_unanswered_iff {controller : Controller} {surface : Id} :
    (controller.closed surface).2 = none ↔ ∀ entry ∈ controller.tracked, entry.1 ≠ surface := by
  constructor
  · intro unanswered entry tracked named
    obtain ⟨id, tag⟩ := entry
    obtain rfl : id = surface := named
    revert unanswered
    fun_cases controller.closed id with
    | case1 => simp
    | case2 => simp
    | case3 unfound inactive =>
      rcases mem_tracked_iff.mp tracked with asked | ⟨active, -⟩
      · simpa using List.find?_eq_none.mp unfound _ asked
      · exact absurd active inactive
  · intro untracked
    rw [closed_of_untracked untracked]

namespace Coordinator

/-- The state with what an event leaves behind when it does not count as a change. -/
def noted (state : Coordinator) : Event → Coordinator
  | .drawerSlide offset => { state with drawer := { state.drawer with lastOffset := some offset } }
  | .shelfRequest command =>
    { state with
      structuralMoveRequested := state.structuralMoveRequested || command.order.isStructural }
  | .actionSurfaceClosed _ => { state with structuralMoveRequested := false }
  | _ => state

/-- An event changes the state and does not count as a change: a sample that makes no edge and
differs from the last one, the first structural command since a surface closed, or a report on a
surface that is not tracked after such a command. -/
def Unreported (state : Coordinator) : Event → Prop
  | .drawerSlide offset =>
    state.drawer.phase.edge? offset = none ∧ state.drawer.lastOffset ≠ some offset
  | .shelfRequest command =>
    command.order.isStructural = true ∧ state.structuralMoveRequested = false
  | .actionSurfaceClosed surface =>
    (∀ entry ∈ state.surfaces.tracked, entry.1 ≠ surface) ∧ state.structuralMoveRequested = true
  | _ => False

section

variable (view : HostView) (state : Coordinator)

/-! ## Events that do not count -/

theorem noted_drawerSlide {offset : Drawer.Offset}
    (silent : (state.drawerSlide offset).changed = false) :
    (state.drawerSlide offset).state = state.noted (.drawerSlide offset) := by
  revert silent
  rw [drawerSlide, Drawer.slide, noted]
  rcases state.drawer.phase.edge? offset with _ | _ | _ <;> simp

theorem noted_drawerItemClicked {item : Drawer.Item}
    (silent : (state.drawerItemClicked item).changed = false) :
    (state.drawerItemClicked item).state = state := by
  revert silent
  rw [drawerItemClicked]
  dsimp only
  split
  · intro _
    rfl
  · rintro ⟨⟩

theorem noted_backPressed (silent : (state.backPressed view).changed = false) :
    (state.backPressed view).state = state := by
  revert silent
  rw [backPressed]
  cases BackPress.decide state.drawer.isOpen view.needsConfirmation with
  | drawerClosed => rintro ⟨⟩
  | deferredToPane | propagate => exact fun _ => rfl

theorem noted_openNote {noteId : NoteId} (silent : (state.openNote view noteId).changed = false) :
    (state.openNote view noteId).state = state := by
  revert silent
  rw [openNote]
  cases view.note noteId with
  | none => exact fun _ => rfl
  | some note => rintro ⟨⟩

theorem noted_toggle {id : ItemId} {descriptor : Option Descriptor}
    (silent : (state.toggle id descriptor).changed = false) :
    (state.toggle id descriptor).state = state := by
  revert silent
  rw [toggle]
  cases state.list with
  | none => exact fun _ => rfl
  | some list => rintro ⟨⟩

theorem noted_selectionCleared (silent : state.selectionCleared.changed = false) :
    state.selectionCleared.state = state := by
  revert silent
  rw [selectionCleared]
  cases state.list with
  | none => exact fun _ => rfl
  | some list => rintro ⟨⟩

theorem noted_surfaceClosed {surface : Id}
    (silent : (state.surfaceClosed view surface).changed = false) :
    (state.surfaceClosed view surface).state = state.noted (.actionSurfaceClosed surface) := by
  revert silent
  rw [surfaceClosed]
  rcases answer : state.surfaces.closed surface with ⟨surfaces, _ | closed⟩
  · intro _
    have unanswered : (state.surfaces.closed surface).2 = none := by rw [answer]
    have kept : surfaces = state.surfaces := by
      rw [← Controller.closed_of_unanswered unanswered, answer]
    rw [kept]
    rfl
  · rintro ⟨⟩

theorem noted_shelfResponse {response : Shelf.Response}
    (silent : (state.shelfResponse response).changed = false) :
    (state.shelfResponse response).state = state := by
  revert silent
  cases response with
  | bookDeleted bookId =>
    rw [shelfResponse]
    dsimp only
    split
    · rintro ⟨⟩
    · exact fun _ => rfl
  | _ => exact fun _ => rfl

/-- An event that does not count as a change leaves no more than its note. -/
theorem noted_handle {event : Event} (silent : (state.handle view event).changed = false) :
    (state.handle view event).state = state.noted event := by
  revert silent
  cases event with
  | coldStart _ | resumed _ | hostDestroyed | paneAnnounced _ _ _ | panesCleared | fileChosen _ =>
    rintro ⟨⟩
  | broadcast _ | navigate _ | searchOpened | searchSubmitted _ | bookClicked _ | shelfRequest _ =>
    exact fun _ => rfl
  | broadcastPayload payload => exact fun _ => state.state_broadcastPayload view payload
  | drawerSlide offset => exact state.noted_drawerSlide
  | drawerItemClicked item => exact state.noted_drawerItemClicked
  | backPressed => exact state.noted_backPressed view
  | noteClicked noteId =>
    rw [handle]
    split
    · exact state.noted_toggle
    · exact state.noted_openNote view
  | noteLongClicked noteId =>
    rw [handle]
    split
    · exact state.noted_openNote view
    · exact state.noted_toggle
  | itemToggled itemId descriptor => exact state.noted_toggle
  | selectionCleared => exact state.noted_selectionCleared
  | noteScrollRequested noteId => exact fun _ => state.state_noteScrollRequested view noteId
  | actionSurfaceClosed surface => exact state.noted_surfaceClosed view
  | shelfResponse response => exact state.noted_shelfResponse
  | importConfirmed name uri => exact fun _ => state.state_importConfirmed view name uri
  | scheduledTaskFired task => exact fun _ => state.state_taskFired task

/-! ## When the note makes a difference -/

theorem changed_drawerSlide (offset : Drawer.Offset) :
    (state.drawerSlide offset).changed = (state.drawer.phase.edge? offset).isSome := by
  rw [drawerSlide, Drawer.slide]
  rcases state.drawer.phase.edge? offset with _ | _ | _ <;> rfl

theorem changed_surfaceClosed (surface : Id) :
    (state.surfaceClosed view surface).changed = (state.surfaces.closed surface).2.isSome := by
  rw [surfaceClosed]
  rcases state.surfaces.closed surface with ⟨surfaces, _ | closed⟩ <;> rfl

theorem slid_eq_self_iff {offset : Drawer.Offset} :
    { state with drawer := { state.drawer with lastOffset := some offset } } = state ↔
      state.drawer.lastOffset = some offset := by
  constructor
  · intro same
    rw [← same]
  · intro last
    rw [← last]

theorem requested_eq_self_iff {requested : Bool} :
    { state with structuralMoveRequested := requested } = state ↔
      state.structuralMoveRequested = requested := by
  constructor
  · intro same
    rw [← same]
  · rintro rfl
    rfl

theorem noted_ne_iff {event : Event} :
    (state.handle view event).changed = false ∧ state.noted event ≠ state ↔
      state.Unreported event := by
  cases event with
  | drawerSlide offset =>
    rw [handle, changed_drawerSlide, Option.isSome_eq_false_iff, Option.isNone_iff_eq_none]
    exact and_congr_right fun _ => not_congr state.slid_eq_self_iff
  | shelfRequest command =>
    have silent : (state.handle view (.shelfRequest command)).changed = false := rfl
    rw [silent, noted, ne_eq, requested_eq_self_iff, Unreported]
    cases state.structuralMoveRequested <;> simp
  | actionSurfaceClosed surface =>
    rw [handle, changed_surfaceClosed, Option.isSome_eq_false_iff, Option.isNone_iff_eq_none,
      Controller.closed_unanswered_iff, noted, ne_eq, requested_eq_self_iff, Bool.not_eq_false]
    rfl
  | _ => simp [noted, Unreported]

theorem unreported_handle {event : Event} :
    (state.handle view event).changed = false ∧ (state.handle view event).state ≠ state ↔
      state.Unreported event := by
  rw [← state.noted_ne_iff view]
  refine and_congr_right fun silent => ?_
  rw [state.noted_handle view silent]

end

end Coordinator

namespace Session

/-- Broadcasts do not count as a change. -/
theorem changed_deliverBroadcasts (surroundings : Surroundings) (intents : List Intent)
    (result : Session × Bool) :
    (intents.foldl (deliverBroadcast surroundings) result).2 = result.2 := by
  induction intents generalizing result with
  | nil => rfl
  | cons intent intents ih =>
    rw [List.foldl_cons, ih]
    exact Bool.or_false result.2

theorem changed_dispatch (surroundings : Surroundings) (session : Session) (event : Event) :
    (session.dispatch surroundings event).2 =
      (session.meet surroundings event).outcome.changed := by
  rw [dispatch, changed_deliverBroadcasts]
  rfl

end Session

namespace Coordinator

/-- The state changes under an event that does not count as a change exactly if the event is one of
three kinds, and then only by what that event notes; so it is when the event is handled, and when a
session dispatches it with all that it leads to. -/
theorem unreported_iff (view : HostView) (state : Coordinator) (event : Event) :
    let outcome := state.handle view event
    (outcome.changed = false ∧ outcome.state ≠ state ↔ state.Unreported event) ∧
    (outcome.changed = true ∨ outcome.state = state.noted event) ∧
    ∀ (surroundings : Surroundings) (session : Session),
      let result := session.dispatch surroundings event
      result.2 = false ∧ result.1.state ≠ session.state ↔ session.state.Unreported event := by
  intro outcome
  refine ⟨state.unreported_handle view, ?_, fun surroundings session => ?_⟩
  · rcases Bool.eq_false_or_eq_true outcome.changed with counts | silent
    · exact .inl counts
    · exact .inr (state.noted_handle view silent)
  · intro result
    have changed_eq : result.2 = (session.meet surroundings event).outcome.changed :=
      session.changed_dispatch surroundings event
    have state_eq : result.1.state = (session.meet surroundings event).outcome.state :=
      session.state_dispatch surroundings event
    rw [changed_eq, state_eq]
    exact session.state.unreported_handle _

/-- A pane asks to promote a note. Nothing counts as a change, and yet the request is remembered. -/
theorem request_unreported :
    ¬ ∀ (settings : Settings) (stimuli : List Stimulus) (view : HostView) (event : Event),
      let state := (initial settings).run stimuli
      (state.handle view event).changed = false → (state.handle view event).state = state := by
  intro honest
  have same := honest .standard [] (Host.initial.view .still)
    (.shelfRequest ⟨.promoteNotes ⟨7⟩ [⟨42⟩], none⟩) rfl
  revert same
  decide

end Coordinator

end Panes
