import Panes.Proofs.Router
import Panes.Proofs.Session.Delivery
import Panes.Proofs.Surface.Tracking

/-!
# Deleted books

A book may be deleted while it or one of its notes is on screen. What is looked at then is only the
pane that the router remembers, while the selection lives in the list pane. Both denote the same
pane throughout a run (`Coordinator.Located`), so a book that the remembered pane does not belong to
is not the book of the list pane either.
-/

namespace Panes

namespace Coordinator

/-! ## The book of the list pane -/

theorem bind_bookId?_identity (pane : Option Pane) :
    (pane.map Pane.identity).bind Pane.bookId? = pane.bind Pane.bookId? := by
  cases pane with
  | none => rfl
  | some pane => exact pane.bookId?_identity

/-- The list pane belongs to the book of the remembered pane, if that is a list pane. -/
theorem Located.bookId?_list {state : Coordinator} (located : state.Located) :
    (state.list.map ListPane.pane).bind Pane.bookId? =
      (state.router.current.filter (·.kind.isList)).bind Pane.bookId? := by
  rw [← bind_bookId?_identity, located, bind_bookId?_identity]

/-- A book other than that of the remembered pane is not the book of the list pane. -/
theorem Located.list_of_other {state : Coordinator} (located : state.Located) {bookId : BookId}
    (other : state.router.current.bind Pane.bookId? ≠ some bookId) :
    (state.list.map ListPane.pane).bind Pane.bookId? ≠ some bookId := by
  rw [located.bookId?_list]
  intro listed
  obtain ⟨pane, kept, book_eq⟩ := Option.bind_eq_some_iff.mp listed
  obtain ⟨current_eq, -⟩ := Option.filter_eq_some_iff.mp kept
  exact other (Option.bind_eq_some_iff.mpr ⟨pane, current_eq, book_eq⟩)

/-! ## The report of a deletion -/

/-- What is done about a deleted book that was on screen: the shown surface is finished before the
panes go, and the list of books comes last. -/
def retreat (surface : Option Surface.Id) : List Action :=
  .notify "Notebook deleted" ::
    (surface.map fun id => Action.surface (.finish id)).toList ++
      [.clearPanes, .display .books false]

theorem finishSurface_actions (state : Coordinator) :
    state.finishSurface.2 =
      (state.surfaces.activeSurface?.map fun id => Action.surface (.finish id)).toList := by
  change (state.surfaces.finish.2.map Action.surface).toList = _
  rw [Surface.Controller.finish_command, Option.map_map]
  rfl

theorem bookDeleted_of_current {state : Coordinator} {bookId : BookId}
    (current : state.router.current.bind Pane.bookId? = some bookId) :
    state.shelfResponse (.bookDeleted bookId) =
      ⟨{ state with router := .initial, list := none, surfaces := state.surfaces.finish.1 }, true,
        retreat state.surfaces.activeSurface?⟩ := by
  simp only [shelfResponse, if_pos current, finishSurface_actions]
  rfl

theorem bookDeleted_of_other {state : Coordinator} {bookId : BookId}
    (other : state.router.current.bind Pane.bookId? ≠ some bookId) :
    state.shelfResponse (.bookDeleted bookId) = ⟨state, false, [.notify "Notebook deleted"]⟩ := by
  simp only [shelfResponse, if_neg other]
  rfl

end Coordinator

/-- Whatever was on the stack, the list of books is alone there in the end. -/
theorem Host.carryOut_retreat (host : Host) (surface : Option Surface.Id) :
    host.carryOut (Coordinator.retreat surface) =
      { host with stack := [.books], log := host.log ++ Coordinator.retreat surface } := by
  cases surface <;> rfl

/-- The answer of the content store brings no event back, now or later. -/
theorem Session.dispatch_shelfResponse (surroundings : Surroundings) (session : Session)
    (response : Shelf.Response) :
    let outcome := session.state.shelfResponse response
    session.dispatch surroundings (.shelfResponse response) =
      (⟨outcome.state, session.host.carryOut outcome.actions, session.scheduler⟩,
        outcome.changed) := by
  intro outcome
  let view := session.host.view surroundings
  let event : Event := .shelfResponse response
  have silent : broadcasts (session.meet surroundings event).outcome.actions = [] :=
    broadcasts_handle view session.state event
  have immediate : outcome.actions.filterMap Action.putOff? = [] :=
    putOff_handle view session.state event
  have outcome_eq : (session.meet surroundings event).outcome = outcome := rfl
  rw [dispatch_of_silent silent, outcome_eq, carryOut, immediate]
  rfl

namespace Coordinator

/-- After a book was deleted neither the remembered pane nor the list pane belongs to it. If the
remembered pane did, nothing is selected and no surface is shown afterwards, and whatever host and
tasks there are, `retreat` is carried out and leaves the list of books alone on the stack. Otherwise
the user is notified, and that is all. -/
theorem deleted_book_forgotten (settings : Settings) (stimuli : List Stimulus) (view : HostView)
    (bookId : BookId) :
    let state := (initial settings).run stimuli
    let event : Event := .shelfResponse (.bookDeleted bookId)
    let outcome := state.handle view event
    outcome.state.router.current.bind Pane.bookId? ≠ some bookId ∧
      (outcome.state.list.map ListPane.pane).bind Pane.bookId? ≠ some bookId ∧
      if state.router.current.bind Pane.bookId? = some bookId then
        outcome.state.selectionCount = 0 ∧ outcome.state.surfaces.isActive = false ∧
          outcome.actions = retreat state.surfaces.activeSurface? ∧
          ∀ surroundings host scheduler,
            Session.dispatch surroundings ⟨state, host, scheduler⟩ event =
              (⟨outcome.state,
                { host with stack := [.books], log := host.log ++ outcome.actions }, scheduler⟩,
              true)
      else
        outcome = ⟨state, false, [.notify "Notebook deleted"]⟩ := by
  intro state event outcome
  have located : state.Located := located_run settings stimuli
  have handled : outcome = state.shelfResponse (.bookDeleted bookId) := rfl
  by_cases current : state.router.current.bind Pane.bookId? = some bookId
  · have outcome_eq := handled.trans (bookDeleted_of_current current)
    rw [if_pos current]
    refine ⟨?_, ?_, ?_, ?_, ?_, ?_⟩
    · rw [outcome_eq]
      exact (Option.some_ne_none bookId).symm
    · rw [outcome_eq]
      exact (Option.some_ne_none bookId).symm
    · rw [outcome_eq]
      rfl
    · rw [outcome_eq, Surface.Controller.isActive_eq_isSome,
        Surface.Controller.activeSurface?_finish]
      rfl
    · rw [outcome_eq]
    · intro surroundings host scheduler
      rw [Session.dispatch_shelfResponse, ← handled, outcome_eq]
      dsimp only
      rw [Host.carryOut_retreat]
  · have outcome_eq := handled.trans (bookDeleted_of_other current)
    rw [if_neg current, outcome_eq]
    exact ⟨current, located.list_of_other current, rfl⟩

/-- A book is deleted while one of its notes is selected. -/
example :
    let view : HostView := Host.initial.view .still
    let state := (initial .standard).run
      [⟨view, .paneAnnounced (.book ⟨7⟩ none) none none⟩, ⟨view, .itemToggled ⟨42⟩ none⟩]
    (state.handle view (.shelfResponse (.bookDeleted ⟨7⟩))).actions =
      [.notify "Notebook deleted", .surface (.finish ⟨1⟩), .clearPanes, .display .books false] := by
  decide

end Coordinator

end Panes
