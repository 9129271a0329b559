import Mathlib.Algebra.GroupWithZero.Nat
import Panes.Proofs.Orders
import Panes.Proofs.Synchronisation

/-!
# When the coordinator asks to synchronise

Orders that a pane asks for are passed on as they are. Apart from them the coordinator asks the
content store to synchronise after restructuring only when a surface for structural editing closes
while a structural command is outstanding, and then once. Each time uses up a command, so there are
never more synchronisations than structural commands.
-/

namespace Panes

open Surface

/-- The orders that are passed on as a pane gave them. -/
def Event.forwarded : Event → List Shelf.Order
  | shelfRequest command => [command.order]
  | _ => []

namespace Moment

/-- How many synchronisations after restructuring the coordinator asks for, apart from what it
passes on. -/
def ownResyncs (moment : Moment) : Nat :=
  (moment.outcome.orders.diff moment.event.forwarded).count .syncOnNoteUpdate

theorem resyncs_iff_mem_orders (moment : Moment) :
    moment.Resyncs ↔
      moment.event.reportsClose = true ∧ .syncOnNoteUpdate ∈ moment.outcome.orders :=
  and_congr_right' any_isResync_iff

theorem ownResyncs_eq (moment : Moment) : moment.ownResyncs = if moment.Resyncs then 1 else 0 := by
  have orders_eq : moment.outcome.orders = moment.before.orders moment.view moment.event :=
    moment.before.orders_handle moment.view moment.event
  simp only [ownResyncs, resyncs_iff_mem_orders, orders_eq]
  cases moment.event with
  | actionSurfaceClosed surface =>
    simp only [Event.forwarded, Coordinator.orders, Event.reportsClose]
    cases moment.before.resyncsOnClose surface <;> rfl
  | noteScrollRequested noteId =>
    simp only [Event.forwarded, Coordinator.orders, Event.reportsClose, Bool.false_eq_true,
      false_and, if_false]
    cases moment.view.note noteId <;> rfl
  | importConfirmed name uri =>
    simp only [Event.forwarded, Coordinator.orders, Event.reportsClose, Bool.false_eq_true,
      false_and, if_false]
    cases (Text.trimString name).isEmpty <;> rfl
  | shelfRequest command => simp [Event.forwarded, Coordinator.orders, Event.reportsClose]
  | _ => rfl

/-- A synchronisation uses up the command that was outstanding, and only a structural command can be
outstanding afterwards. -/
theorem ownResyncs_add_outstanding_le (moment : Moment)
    (orderly : moment.before.surfaces.Orderly) :
    moment.ownResyncs + moment.after.structuralMoveRequested.toNat ≤
      moment.before.structuralMoveRequested.toNat + moment.event.asksStructural.toNat := by
  have flag := moment.structuralMoveRequested_after
  rw [ownResyncs_eq]
  split
  · next resyncs =>
    obtain ⟨outstanding, -⟩ := (resyncs_iff orderly).mp resyncs
    have used : moment.after.structuralMoveRequested = false := by
      rw [← Bool.not_eq_true, flag]
      rintro (asked | ⟨still, -⟩)
      · exact not_reportsClose_of_asksStructural asked resyncs.1
      · exact still (.inl resyncs.1)
    rw [used, outstanding]
    simp
  · cases outstanding : moment.after.structuralMoveRequested with
    | false => simp
    | true =>
      rcases flag.mp outstanding with asked | ⟨-, before⟩
      · simp [asked]
      · simp [before]

end Moment

namespace Coordinator

/-- Together with what is outstanding, the synchronisations never outnumber the structural
commands. -/
theorem sum_ownResyncs_add_outstanding_le (settings : Settings) (stimuli : List Stimulus) :
    (((initial settings).history stimuli).map Moment.ownResyncs).sum +
        ((initial settings).run stimuli).structuralMoveRequested.toNat ≤
      stimuli.countP (·.event.asksStructural) := by
  induction stimuli using List.reverseRecOn with
  | nil => exact Nat.le_refl 0
  | append_singleton stimuli stimulus ih =>
    let moment := ((initial settings).run stimuli).meet stimulus
    have step : moment.ownResyncs + moment.after.structuralMoveRequested.toNat ≤
        ((initial settings).run stimuli).structuralMoveRequested.toNat +
          stimulus.event.asksStructural.toNat :=
      moment.ownResyncs_add_outstanding_le (orderly_run settings stimuli)
    have asked : [stimulus].countP (·.event.asksStructural) =
        stimulus.event.asksStructural.toNat := by
      cases asks : stimulus.event.asksStructural <;> simp [asks]
    rw [history_snoc, run_snoc, List.map_append, List.sum_append, List.countP_append, asked]
    simp only [List.map_singleton, List.sum_singleton]
    change _ + moment.ownResyncs + moment.after.structuralMoveRequested.toNat ≤ _
    omega

/-- Apart from passing on what panes ask for, the coordinator asks for a synchronisation after
restructuring exactly when a surface closes that was started for structural editing by the present
host and not reported closed since, and a structural command was given since the last close. It then
asks once. So it never asks more often than structural commands are given. -/
theorem ownResyncs_iff (settings : Settings) (stimuli : List Stimulus) (next : Stimulus) :
    let history := (initial settings).history stimuli
    let moment := ((initial settings).run stimuli).meet next
    let due := ∃ surface, next.event = .actionSurfaceClosed surface ∧
      Since (fun earlier => earlier.StartsMove surface)
        (fun earlier => earlier.event = .actionSurfaceClosed surface ∨
          earlier.event = .hostDestroyed) history ∧
      Since (fun earlier => earlier.event.asksStructural = true)
        (fun earlier => earlier.event.reportsClose = true ∨ earlier.event = .hostDestroyed) history
    (moment.ownResyncs = 1 ↔ due) ∧ (moment.ownResyncs = 0 ↔ ¬ due) ∧
      (history.map Moment.ownResyncs).sum ≤ stimuli.countP (·.event.asksStructural) := by
  intro history moment due
  have decision : moment.Resyncs ↔ due := by
    rw [Moment.resyncs_iff (orderly_run settings stimuli)]
    have outstanding := structuralMoveRequested_run_iff settings stimuli
    constructor
    · rintro ⟨flag, surface, closes, tracked⟩
      exact ⟨surface, closes, (mem_tracked_run_iff settings stimuli surface _).mp tracked,
        outstanding.mp flag⟩
    · rintro ⟨surface, closes, started, asked⟩
      exact ⟨outstanding.mpr asked, surface, closes,
        (mem_tracked_run_iff settings stimuli surface _).mpr started⟩
  refine ⟨?_, ?_, ?_⟩
  · rw [moment.ownResyncs_eq, ← decision]
    simp
  · rw [moment.ownResyncs_eq, ← decision]
    simp
  · have total := sum_ownResyncs_add_outstanding_le settings stimuli
    exact Nat.le_of_add_right_le total

end Coordinator

end Panes
