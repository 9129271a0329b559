import Panes.Proofs.Emission

/-!
# What is posted to the content store

Five kinds of event post an order, and no event posts more than one. `Coordinator.orders` says which
order an event posts, and `orders_handle` that no other action on the content store comes with it.
-/

namespace Panes

/-- The order that an action posts to the content store. -/
def Action.posted? : Action → Option Shelf.Order
  | .postToShelf command => some command.order
  | _ => none

/-- The orders among the actions of an outcome. -/
def Outcome.orders (outcome : Outcome) : List Shelf.Order :=
  outcome.actions.filterMap Action.posted?

namespace Coordinator

/-- The close of the surface asks for a synchronisation: it was tagged for structural editing, and a
structural command was given since the last close. -/
def resyncsOnClose (state : Coordinator) (surface : Surface.Id) : Bool :=
  state.structuralMoveRequested && (state.surfaces.closed surface).2.any (·.tag = some .move)

/-- The orders that an event posts. -/
def orders (view : HostView) (state : Coordinator) : Event → List Shelf.Order
  | .resumed _ => [.syncOnResume]
  | .noteScrollRequested noteId =>
    ((view.note noteId).map fun note => .sparseTree note.bookId note.id).toList
  | .actionSurfaceClosed surface =>
    if state.resyncsOnClose surface then [.syncOnNoteUpdate] else []
  | .shelfRequest command => [command.order]
  | .importConfirmed name uri =>
    if (Text.trimString name).isEmpty then [] else [.importBook (Text.trimString name) uri]
  | _ => []

theorem posted_of_within {kinds : List Action.Kind} {actions : List Action}
    (within : Action.Within kinds actions) (unposted : .postToShelf ∉ kinds) :
    actions.filterMap Action.posted? = [] := by
  have known (action : Action) (posted : action.posted?.isSome = true) :
      action.kind ∈ [Action.Kind.postToShelf] := by
    cases action with
    | postToShelf command => simp
    | _ => cases posted
  have none_posted : actions.filter (·.kind ∈ [Action.Kind.postToShelf]) = [] :=
    Action.filter_kind_of_within within (by simpa using unposted)
  rw [← Action.filterMap_filter_kind known, none_posted]
  rfl

theorem posted_dismiss (state : Coordinator) (dismissed : Bool) :
    (if dismissed then state.clearSelection else (state, [])).2.filterMap Action.posted? = [] := by
  cases dismissed with
  | false => rfl
  | true =>
    have within : Action.Within [.applyPaneChrome] state.clearSelection.2 :=
      within_clearSelection (by simp) state
    exact posted_of_within within (by simp)

theorem orders_resume (view : HostView) (state : Coordinator) (firstRun : Bool) :
    (state.resume view firstRun).orders = [.syncOnResume] := by
  unfold resume
  cases state.pendingImport <;> cases firstRun <;> rfl

theorem orders_noteScrollRequested (view : HostView) (state : Coordinator) (noteId : NoteId) :
    (state.noteScrollRequested view noteId).orders =
      ((view.note noteId).map fun note => .sparseTree note.bookId note.id).toList := by
  unfold noteScrollRequested
  cases view.note noteId <;> rfl

theorem orders_surfaceClosed (view : HostView) (state : Coordinator) (surface : Surface.Id) :
    (state.surfaceClosed view surface).orders =
      if state.resyncsOnClose surface then [.syncOnNoteUpdate] else [] := by
  unfold surfaceClosed resyncsOnClose
  rcases state.surfaces.closed surface with ⟨surfaces, closed⟩
  cases closed with
  | none => simp [ignore, Outcome.orders]
  | some closed =>
    simp only [Outcome.orders, List.filterMap_append, posted_dismiss, List.append_nil]
    by_cases due : closed.tag = some .move ∧ state.structuralMoveRequested = true
    · simp [due, post, Action.posted?]
    · have undue : ¬ (state.structuralMoveRequested = true ∧ closed.tag = some .move) := by
        rwa [and_comm]
      simp [due, undue]

theorem orders_importConfirmed (view : HostView) (state : Coordinator) (name uri : String) :
    (state.importConfirmed view name uri).orders =
      if (Text.trimString name).isEmpty then [] else [.importBook (Text.trimString name) uri] := by
  unfold importConfirmed
  dsimp only
  split <;> rfl

/-- Every event posts the orders that `Coordinator.orders` says, and no other. -/
theorem orders_handle (view : HostView) (state : Coordinator) (event : Event) :
    (state.handle view event).orders = state.orders view event := by
  cases event with
  | resumed firstRun => exact state.orders_resume view firstRun
  | noteScrollRequested noteId => exact state.orders_noteScrollRequested view noteId
  | actionSurfaceClosed surface => exact state.orders_surfaceClosed view surface
  | importConfirmed name uri => exact state.orders_importConfirmed view name uri
  | shelfRequest command => rfl
  | _ => exact posted_of_within (handle_within _ _ _) (by simp)

end Coordinator

end Panes
