import Panes.Proofs.Change

/-!
# Events that are ignored

What cannot be made out leads to nothing: a note that is gone, a broadcast that means nothing, a
task of a host that is gone, a toggle where there is no list. Such events are turned down at
different depths, some behind the routing of a click or inside a broadcast, but always before
anything was touched. `ignored_iff` lists all events that lead to nothing, and `Coordinator.Inert`
those that could not be made out.
-/

namespace Panes

/-- A broadcast that means nothing: its action is unknown, or a number that the action needs is not
positive. -/
def Intent.Meaningless (intent : Intent) : Prop :=
  (intent.action ≠ "open_book" ∧ intent.action ≠ "open_note") ∨
    (intent.action = "open_book" ∧ intent.bookId ≤ 0) ∨
    (intent.action = "open_note" ∧ (intent.bookId ≤ 0 ∨ intent.noteId ≤ 0))

theorem BookId.ofRaw?_eq_none_iff {raw : Int64} : ofRaw? raw = none ↔ raw ≤ 0 := by
  simp [ofRaw?]

theorem NoteId.ofRaw?_eq_none_iff {raw : Int64} : ofRaw? raw = none ↔ raw ≤ 0 := by
  simp [ofRaw?]

theorem Intent.broadcastRequest_eq_none_iff {intent : Intent} :
    intent.broadcastRequest? = none ↔ intent.Meaningless := by
  rw [broadcastRequest?, openBookAction, openNoteAction, Meaningless, ← BookId.ofRaw?_eq_none_iff,
    ← NoteId.ofRaw?_eq_none_iff]
  by_cases book : intent.action = "open_book"
  · rw [if_pos book]
    cases BookId.ofRaw? intent.bookId <;> simp [book]
  by_cases note : intent.action = "open_note"
  · rw [if_neg book, if_pos note]
    cases BookId.ofRaw? intent.bookId <;> cases NoteId.ofRaw? intent.noteId <;> simp [note]
  · rw [if_neg book, if_neg note]
    simp [book, note]

namespace Coordinator

/-- An event that cannot be made out: a click that opens a note, or a scroll to one, when the host
does not know the note; a click that toggles an entry, a toggle or a lost selection when there is no
list pane; a broadcast that is malformed or means nothing; a task from another epoch. -/
def Inert (view : HostView) (state : Coordinator) : Event → Prop
  | .noteClicked noteId =>
    if state.reverseNoteClick = true ∨ 0 < state.selectionCount then
      state.list = none
    else
      view.note noteId = none
  | .noteLongClicked noteId =>
    if state.reverseNoteClick = true then view.note noteId = none else state.list = none
  | .noteScrollRequested noteId => view.note noteId = none
  | .itemToggled _ _ | .selectionCleared => state.list = none
  | .broadcast intent => intent.Meaningless
  | .broadcastPayload payload => ∀ intent ∈ Intent.ofText? payload, intent.Meaningless
  | .scheduledTaskFired task => task.epoch ≠ state.epoch
  | _ => False

/-- An event that was made out and asks for nothing: a sample of the drawer that repeats the last
one, a press of the back button that the visible pane deals with, a report on a surface that is not
tracked while no structural command is remembered, a response that there is nothing to say about. -/
def Idle (view : HostView) (state : Coordinator) : Event → Prop
  | .drawerSlide offset =>
    state.drawer.phase.edge? offset = none ∧ state.drawer.lastOffset = some offset
  | .backPressed => state.drawer.isOpen = false ∧ view.needsConfirmation = true
  | .actionSurfaceClosed surface =>
    (∀ entry ∈ state.surfaces.tracked, entry.1 ≠ surface) ∧ state.structuralMoveRequested = false
  | .shelfResponse response => response.notification? = none
  | _ => False

section

variable (view : HostView) (state : Coordinator)

theorem openNote_eq_ignore_iff {noteId : NoteId} :
    state.openNote view noteId = state.ignore ↔ view.note noteId = none := by
  rw [openNote]
  cases view.note noteId <;> simp [ignore]

theorem toggle_eq_ignore_iff {id : ItemId} {descriptor : Option Surface.Descriptor} :
    state.toggle id descriptor = state.ignore ↔ state.list = none := by
  rw [toggle]
  cases state.list <;> simp [ignore]

theorem selectionCleared_eq_ignore_iff :
    state.selectionCleared = state.ignore ↔ state.list = none := by
  rw [selectionCleared]
  cases state.list <;> simp [ignore]

theorem noteScrollRequested_eq_ignore_iff {noteId : NoteId} :
    state.noteScrollRequested view noteId = state.ignore ↔ view.note noteId = none := by
  rw [noteScrollRequested]
  cases view.note noteId <;> simp [ignore, emit]

theorem broadcast_eq_ignore_iff {intent : Intent} :
    state.broadcast intent = state.ignore ↔ intent.Meaningless := by
  rw [← Intent.broadcastRequest_eq_none_iff]
  rw [broadcast]
  cases intent.broadcastRequest? <;> simp [ignore, emit]

theorem taskFired_eq_ignore_iff {task : ScheduledTask} :
    state.taskFired task = state.ignore ↔ task.epoch ≠ state.epoch := by
  rw [taskFired]
  split <;> simp_all [ignore, emit]

theorem drawerSlide_eq_ignore_iff {offset : Drawer.Offset} :
    state.drawerSlide offset = state.ignore ↔
      state.drawer.phase.edge? offset = none ∧ state.drawer.lastOffset = some offset := by
  rw [← state.slid_eq_self_iff]
  rw [drawerSlide, Drawer.slide]
  rcases state.drawer.phase.edge? offset with _ | _ | _ <;> simp [ignore]

theorem backPressed_eq_ignore_iff :
    state.backPressed view = state.ignore ↔
      state.drawer.isOpen = false ∧ view.needsConfirmation = true := by
  rw [backPressed]
  cases state.drawer.isOpen <;> cases view.needsConfirmation <;>
    simp [BackPress.decide, BackPress.consultsPane, ignore, emit]

theorem surfaceClosed_eq_ignore_iff {surface : Surface.Id} :
    state.surfaceClosed view surface = state.ignore ↔
      (∀ entry ∈ state.surfaces.tracked, entry.1 ≠ surface) ∧
        state.structuralMoveRequested = false := by
  rw [← Surface.Controller.closed_unanswered_iff, ← state.requested_eq_self_iff]
  constructor
  · intro ignored
    have silent : (state.surfaceClosed view surface).changed = false := by rw [ignored]; rfl
    have noted_eq := state.noted_surfaceClosed view silent
    rw [changed_surfaceClosed, Option.isSome_eq_false_iff, Option.isNone_iff_eq_none] at silent
    rw [ignored] at noted_eq
    exact ⟨silent, noted_eq.symm⟩
  · rintro ⟨unanswered, same⟩
    rw [surfaceClosed]
    rcases answer : state.surfaces.closed surface with ⟨surfaces, _ | closed⟩
    · have kept : surfaces = state.surfaces := by
        rw [← Surface.Controller.closed_of_unanswered unanswered, answer]
      rw [kept]
      exact congrArg ignore same
    · rw [answer] at unanswered
      cases unanswered

theorem shelfResponse_eq_ignore_iff {response : Shelf.Response} :
    state.shelfResponse response = state.ignore ↔ response.notification? = none := by
  cases response with
  | bookDeleted bookId =>
    rw [shelfResponse]
    dsimp only
    split <;> simp [ignore, emit, Shelf.Response.notification?]
  | _ => simp [shelfResponse, ignore, emit]

theorem drawerItemClicked_ne_ignore (item : Drawer.Item) :
    state.drawerItemClicked item ≠ state.ignore := by
  rw [drawerItemClicked]
  split <;> simp [ignore, emit]

theorem importConfirmed_ne_ignore (name uri : String) :
    state.importConfirmed view name uri ≠ state.ignore := by
  rw [importConfirmed]
  split <;> simp [ignore, emit]

/-- An event leads to nothing, that is, to no action and to the same state in every part, exactly if
it could not be made out or asks for nothing. -/
theorem ignored_iff (event : Event) :
    state.handle view event = ⟨state, false, []⟩ ↔
      state.Inert view event ∨ state.Idle view event := by
  cases event with
  | coldStart _ | resumed _ | hostDestroyed | paneAnnounced _ _ _ | panesCleared | fileChosen _ =>
    simp [handle, coldStart, resume, hostDestroyed, paneAnnounced, panesCleared, Inert, Idle]
  | navigate _ | searchOpened | searchSubmitted _ | bookClicked _ | shelfRequest _ =>
    simp [handle, emit, shelfRequest, Inert, Idle]
  | broadcast intent => exact state.broadcast_eq_ignore_iff.trans (or_iff_left not_false).symm
  | broadcastPayload payload =>
    refine Iff.trans ?_ (or_iff_left not_false).symm
    rw [handle, Inert]
    cases Intent.ofText? payload with
    | none =>
      refine iff_of_true rfl ?_
      rintro _ ⟨⟩
    | some intent =>
      have meant_iff : (∀ meant ∈ some intent, meant.Meaningless) ↔ intent.Meaningless := by simp
      exact state.broadcast_eq_ignore_iff.trans meant_iff.symm
  | drawerSlide offset => exact state.drawerSlide_eq_ignore_iff.trans (or_iff_right not_false).symm
  | drawerItemClicked item =>
    exact iff_of_false (state.drawerItemClicked_ne_ignore item) (by simp [Inert, Idle])
  | backPressed => exact (state.backPressed_eq_ignore_iff view).trans (or_iff_right not_false).symm
  | noteClicked noteId =>
    refine Iff.trans ?_ (or_iff_left not_false).symm
    rw [handle, Inert]
    split
    · exact state.toggle_eq_ignore_iff
    · exact state.openNote_eq_ignore_iff view
  | noteLongClicked noteId =>
    refine Iff.trans ?_ (or_iff_left not_false).symm
    rw [handle, Inert]
    split
    · exact state.openNote_eq_ignore_iff view
    · exact state.toggle_eq_ignore_iff
  | itemToggled itemId descriptor =>
    exact state.toggle_eq_ignore_iff.trans (or_iff_left not_false).symm
  | selectionCleared =>
    exact state.selectionCleared_eq_ignore_iff.trans (or_iff_left not_false).symm
  | noteScrollRequested noteId =>
    exact (state.noteScrollRequested_eq_ignore_iff view).trans (or_iff_left not_false).symm
  | actionSurfaceClosed surface =>
    exact (state.surfaceClosed_eq_ignore_iff view).trans (or_iff_right not_false).symm
  | shelfResponse response =>
    exact state.shelfResponse_eq_ignore_iff.trans (or_iff_right not_false).symm
  | importConfirmed name uri =>
    exact iff_of_false (state.importConfirmed_ne_ignore view name uri) (by simp [Inert, Idle])
  | scheduledTaskFired task =>
    exact state.taskFired_eq_ignore_iff.trans (or_iff_left not_false).symm

end

end Coordinator

end Panes
