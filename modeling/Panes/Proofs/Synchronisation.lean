import Panes.Proofs.Background
import Panes.Proofs.Orders
import Panes.Proofs.Surface.History
import Panes.Session

/-!
# Synchronisation after structural commands

A structural command sets a flag, and the close of a surface for structural editing that finds the
flag set asks the content store to synchronise. Every reported close takes the flag down, also that
of a surface of another kind. So a synchronisation is due exactly if no other close came between the
command and the close.
-/

namespace Panes

open Surface

/-- A pane asks for a structural command. -/
def Event.asksStructural : Event → Bool
  | shelfRequest command => command.order.isStructural
  | _ => false

/-- The host reports that a surface closed. -/
def Event.reportsClose : Event → Bool
  | actionSurfaceClosed _ => true
  | _ => false

theorem Event.reportsClose_iff {event : Event} :
    event.reportsClose = true ↔ ∃ surface, event = .actionSurfaceClosed surface := by
  cases event <;> simp [Event.reportsClose]

/-- The content store is asked to synchronise, as notes were restructured. -/
def Action.isResync : Action → Bool
  | postToShelf ⟨.syncOnNoteUpdate, _⟩ => true
  | _ => false

theorem Action.isResync_iff {action : Action} :
    action.isResync = true ↔ action.posted? = some .syncOnNoteUpdate := by
  cases action with
  | postToShelf command =>
    obtain ⟨order, status⟩ := command
    cases order <;> simp [Action.isResync, Action.posted?]
  | _ => simp [Action.isResync, Action.posted?]

theorem any_isResync_iff {actions : List Action} :
    actions.any Action.isResync = true ↔
      .syncOnNoteUpdate ∈ actions.filterMap Action.posted? := by
  simp only [List.any_eq_true, List.mem_filterMap, Action.isResync_iff]

theorem filter_not_isResync {actions : List Action}
    (nothing_posted : actions.filterMap Action.posted? = []) :
    actions.filter (!·.isResync) = actions := by
  rw [List.filter_eq_self]
  intro action member
  rw [Bool.not_eq_true', ← Bool.not_eq_true, Action.isResync_iff,
    List.filterMap_eq_nil_iff.mp nothing_posted action member]
  nofun

theorem not_reportsClose_of_asksStructural {event : Event} (asked : event.asksStructural = true) :
    ¬ event.reportsClose = true := by
  revert asked
  cases event <;> simp [Event.asksStructural, Event.reportsClose]

namespace Moment

/-- The close of a surface leads to a synchronisation. -/
def Resyncs (moment : Moment) : Prop :=
  moment.event.reportsClose = true ∧ moment.outcome.actions.any Action.isResync = true

instance (moment : Moment) : Decidable moment.Resyncs :=
  inferInstanceAs (Decidable (_ ∧ _))

/-- A tracked surface for structural editing is reported closed. -/
def ClosesMove (moment : Moment) : Prop :=
  ∃ surface, moment.event = .actionSurfaceClosed surface ∧
    (surface, some .move) ∈ moment.before.surfaces.tracked

/-- A surface for structural editing is started. -/
def StartsMove (moment : Moment) (surface : Id) : Prop :=
  ∃ descriptor, moment.Emits (.start surface descriptor) ∧ descriptor.tag = some .move

/-- What the event does to the flag. -/
theorem structuralMoveRequested_after (moment : Moment) :
    moment.after.structuralMoveRequested = true ↔
      moment.event.asksStructural = true ∨
        ¬ (moment.event.reportsClose = true ∨ moment.event = .hostDestroyed) ∧
          moment.before.structuralMoveRequested = true := by
  have next_eq : moment.after.structuralMoveRequested =
      (moment.before.standing.next moment.view moment.event).structuralMoveRequested :=
    congrArg Standing.structuralMoveRequested
      (moment.before.standing_handle moment.view moment.event)
  rw [next_eq]
  cases moment.event with
  | shelfRequest command =>
    simp [Standing.next, Event.asksStructural, Event.reportsClose, Coordinator.standing, or_comm]
  | _ => simp [Standing.next, Event.asksStructural, Event.reportsClose, Coordinator.standing]

end Moment

namespace Coordinator

/-- A reported close leads to a synchronisation if the flag is set and the surface is known and
tagged for it. -/
theorem any_isResync_surfaceClosed (view : HostView) (state : Coordinator) (surface : Id) :
    (state.surfaceClosed view surface).actions.any Action.isResync = true ↔
      state.structuralMoveRequested = true ∧
        ∃ closed, (state.surfaces.closed surface).2 = some closed ∧ closed.tag = some .move := by
  rw [any_isResync_iff, ← Outcome.orders, orders_surfaceClosed]
  simp [resyncsOnClose, Option.any_eq_true]

end Coordinator

namespace Moment

theorem resyncs_iff {moment : Moment} (orderly : moment.before.surfaces.Orderly) :
    moment.Resyncs ↔ moment.before.structuralMoveRequested = true ∧ moment.ClosesMove := by
  obtain ⟨state, view, event⟩ := moment
  cases event with
  | actionSurfaceClosed surface =>
    have outcome_eq : outcome ⟨state, view, .actionSurfaceClosed surface⟩ =
        state.surfaceClosed view surface := rfl
    have decision := state.any_isResync_surfaceClosed view surface
    rw [← Controller.mem_tracked_iff_closed orderly] at decision
    simpa [Resyncs, ClosesMove, event, Event.reportsClose, outcome_eq] using decision
  | _ => simp [Resyncs, ClosesMove, event, Event.reportsClose]

end Moment

/-- A structural command was asked for, and no close was reported since. -/
def ResyncDue (moments : List Moment) : Prop :=
  Since (fun moment => moment.event.asksStructural = true)
    (fun moment => moment.event.reportsClose = true) moments

namespace Coordinator

/-- The flag is set exactly if a structural command was asked for and no close was reported since,
by the same host. -/
theorem structuralMoveRequested_run_iff (settings : Settings) (stimuli : List Stimulus) :
    ((initial settings).run stimuli).structuralMoveRequested = true ↔
      Since (fun moment => moment.event.asksStructural = true)
        (fun moment => moment.event.reportsClose = true ∨ moment.event = .hostDestroyed)
        ((initial settings).history stimuli) := by
  induction stimuli using List.reverseRecOn with
  | nil => simp [initial]
  | append_singleton stimuli stimulus ih =>
    rw [run_snoc, history_snoc, since_snoc, ← ih]
    exact Moment.structuralMoveRequested_after _

/-! ## From a command to a close -/

section

variable {settings : Settings} {earlier between : List Stimulus} {request : Stimulus}

/-- After a structural command the flag depends only on what happened since. -/
theorem structuralMoveRequested_since_request (asked : request.event.asksStructural = true)
    (hosted : ∀ stimulus ∈ between, stimulus.event ≠ .hostDestroyed) :
    ((initial settings).run (earlier ++ request :: between)).structuralMoveRequested = true ↔
      ResyncDue (((initial settings).run earlier).history (request :: between)) := by
  -- The request outweighs whatever was asked for or closed before it.
  rw [structuralMoveRequested_run_iff, history_append, history_cons,
    since_append_iff_of_occurs (by exact asked)]
  have no_end : ∀ moment ∈ ((initial settings).run earlier).history (request :: between),
      moment.event ≠ .hostDestroyed := by
    intro moment member ended
    rcases List.mem_cons.mp (operation_mem_of_course member) with first | later
    · have request_eq : request.event = .hostDestroyed := first ▸ ended
      rw [request_eq] at asked
      cases asked
    · exact hosted _ later ended
  constructor
  · intro since
    exact since.imp_ends fun moment _ closes => .inl closes
  · intro since
    apply since.imp_ends
    rintro moment member (closes | ended)
    · exact closes
    · exact absurd ended (no_end moment member)

/-- The next event leads to a synchronisation if it closes a surface for structural editing and no
close was reported since the last structural command. -/
theorem resyncs_since_request (asked : request.event.asksStructural = true)
    (hosted : ∀ stimulus ∈ between, stimulus.event ≠ .hostDestroyed) (next : Stimulus) :
    (((initial settings).run (earlier ++ request :: between)).meet next).Resyncs ↔
      (((initial settings).run (earlier ++ request :: between)).meet next).ClosesMove ∧
        ResyncDue (((initial settings).run earlier).history (request :: between)) := by
  rw [← structuralMoveRequested_since_request asked hosted, and_comm]
  exact Moment.resyncs_iff (orderly_run settings _)

/-- Some event led to a synchronisation exactly if it closed a surface for structural editing before
any other close could use up the command. -/
theorem exists_resyncs_iff (asked : request.event.asksStructural = true)
    (hosted : ∀ stimulus ∈ between, stimulus.event ≠ .hostDestroyed) :
    (∃ moment ∈ ((initial settings).run earlier).history (request :: between), moment.Resyncs) ↔
      ∃ front moment back,
        ((initial settings).run earlier).history (request :: between) = front ++ moment :: back ∧
          moment.ClosesMove ∧ ResyncDue front := by
  -- In front of the moment there is at least the command.
  have decision {front back : List Moment} {moment : Moment}
      (split : ((initial settings).run earlier).history (request :: between) =
        front ++ moment :: back) (later : front ≠ []) :
      moment.Resyncs ↔ moment.ClosesMove ∧ ResyncDue front := by
    obtain ⟨pre, next, post, stimuli_eq, rfl, rfl⟩ := history_split split
    cases pre with
    | nil => exact absurd rfl later
    | cons first pre =>
      obtain ⟨rfl, rfl⟩ := List.cons.inj stimuli_eq
      rw [← run_append]
      apply resyncs_since_request asked
      intro stimulus member
      exact hosted stimulus (by simp [member])
  constructor
  · rintro ⟨moment, member, resyncs⟩
    obtain ⟨front, back, split⟩ := List.append_of_mem member
    refine ⟨front, moment, back, split, (decision split ?_).mp resyncs⟩
    rintro rfl
    obtain ⟨moment_eq, -⟩ := List.cons.inj split
    have closes := resyncs.1
    rw [← moment_eq] at closes
    exact not_reportsClose_of_asksStructural asked closes
  · rintro ⟨front, moment, back, split, closes⟩
    refine ⟨moment, by simp [split], (decision split ?_).mpr closes⟩
    rintro rfl
    exact not_since_nil _ _ closes.2

theorem resyncDue_of_no_close (asked : request.event.asksStructural = true)
    {front rest : List Moment}
    (split : ((initial settings).run earlier).history (request :: between) = front ++ rest)
    (later : front ≠ []) (quiet : ∀ moment ∈ front, ¬ moment.event.reportsClose = true) :
    ResyncDue front := by
  cases front with
  | nil => exact absurd rfl later
  | cons first front =>
    obtain ⟨first_eq, -⟩ := List.cons.inj split
    refine since_cons.mpr (.inr ⟨?_, ?_⟩)
    · rw [← first_eq]
      exact asked
    · intro moment member
      exact quiet moment (List.mem_cons_of_mem _ member)

/-- The command counts for the first close that is reported after it. -/
theorem exists_closesMove_since_request (asked : request.event.asksStructural = true)
    {last : Moment} (last_closes : last.ClosesMove)
    (first_closes : ∀ moment, (((initial settings).run earlier).history
      (request :: between)).find? (·.event.reportsClose) = some moment → moment.ClosesMove) :
    ∃ front moment back,
      ((initial settings).run earlier).history (request :: between) ++ [last] =
        front ++ moment :: back ∧ moment.ClosesMove ∧ ResyncDue front := by
  cases found : (((initial settings).run earlier).history (request :: between)).find?
      (·.event.reportsClose) with
  | none =>
    refine ⟨_, last, [], rfl, last_closes, ?_⟩
    apply resyncDue_of_no_close asked (List.append_nil _).symm (by simp [history_cons])
    exact List.find?_eq_none.mp found
  | some moment =>
    obtain ⟨closes, front, back, split, quiet⟩ := List.find?_eq_some_iff_append.mp found
    refine ⟨front, moment, back ++ [last], by simp [split], first_closes moment found, ?_⟩
    apply resyncDue_of_no_close asked split
    · rintro rfl
      obtain ⟨moment_eq, -⟩ := List.cons.inj split
      rw [← moment_eq] at closes
      exact not_reportsClose_of_asksStructural asked closes
    · intro other member
      simpa using quiet other member

end

/-- A known surface that was started for structural editing counts as one when it closes. -/
theorem closesMove_of_started {settings : Settings} {stimuli : List Stimulus} {close : Stimulus}
    {surface : Id} (closed : close.event = .actionSurfaceClosed surface)
    (started : ∃ moment ∈ (initial settings).history stimuli, moment.StartsMove surface)
    (known : (((initial settings).run stimuli).surfaces.closed surface).2.isSome = true) :
    (((initial settings).run stimuli).meet close).ClosesMove := by
  obtain ⟨moment, member, descriptor, start, tag_eq⟩ := started
  obtain ⟨answer, answer_eq⟩ := Option.isSome_iff_exists.mp known
  have tracked : (surface, answer.tag) ∈ ((initial settings).run stimuli).surfaces.tracked :=
    (Controller.mem_tracked_iff_closed (orderly_run settings stimuli)).mpr
      ⟨answer, answer_eq, rfl⟩
  rw [tag_of_tracked member start tracked, tag_eq] at tracked
  exact ⟨surface, closed, tracked⟩

/-- A structural command is asked for when a surface for structural editing has been started, and
later the host reports that the surface closed. A synchronisation came of it exactly if some surface
for structural editing closed before any other close could use up the command. In particular one
came of it if the first close reported in between, if there is one, is that of such a surface. -/
theorem resync_after_request (settings : Settings) (earlier between : List Stimulus)
    (request close : Stimulus) (surface : Id)
    (started : ∃ moment ∈ (initial settings).history earlier, moment.StartsMove surface)
    (asked : request.event.asksStructural = true)
    (hosted : ∀ stimulus ∈ between, stimulus.event ≠ .hostDestroyed)
    (closed : close.event = .actionSurfaceClosed surface)
    (known : (((initial settings).run (earlier ++ request :: between)).surfaces.closed
      surface).2.isSome = true) :
    let window := ((initial settings).run earlier).history (request :: (between ++ [close]))
    ((∃ moment ∈ window, moment.Resyncs) ↔
      ∃ front moment back,
        window = front ++ moment :: back ∧ moment.ClosesMove ∧ ResyncDue front) ∧
    ((∀ moment, (((initial settings).run earlier).history (request :: between)).find?
        (·.event.reportsClose) = some moment → moment.ClosesMove) →
      ∃ moment ∈ window, moment.Resyncs) := by
  intro window
  have hosted_close : ∀ stimulus ∈ between ++ [close], stimulus.event ≠ .hostDestroyed := by
    intro stimulus member
    rcases List.mem_append.mp member with inside | last
    · exact hosted stimulus inside
    · rw [List.mem_singleton.mp last, closed]
      nofun
  have exact_condition : (∃ moment ∈ window, moment.Resyncs) ↔ _ :=
    exists_resyncs_iff asked hosted_close
  refine ⟨exact_condition, ?_⟩
  intro first_closes
  have started_before : ∃ moment ∈ (initial settings).history (earlier ++ request :: between),
      moment.StartsMove surface := by
    obtain ⟨moment, member, start⟩ := started
    refine ⟨moment, ?_, start⟩
    rw [history_append]
    exact List.mem_append_left _ member
  have window_eq : window = ((initial settings).run earlier).history (request :: between) ++
      [((initial settings).run (earlier ++ request :: between)).meet close] := by
    change ((initial settings).run earlier).history ((request :: between) ++ [close]) = _
    rw [history_snoc, ← run_append]
  have due := exists_closesMove_since_request asked
    (closesMove_of_started closed started_before known) first_closes
  rw [← window_eq] at due
  exact exact_condition.mpr due

/-- A note is demoted while its surface is shown, then deselected, and then the surface closes. -/
theorem resync_after_demotion :
    let view : HostView := Host.initial.view .still
    let earlier : List Stimulus :=
      [⟨view, .paneAnnounced (.book ⟨7⟩ none) none none⟩,
        ⟨view, .itemToggled ⟨42⟩ (some .structuralMove)⟩]
    let request : Stimulus := ⟨view, .shelfRequest ⟨.demoteNotes ⟨7⟩ [⟨42⟩], none⟩⟩
    let between : List Stimulus := [⟨view, .itemToggled ⟨42⟩ none⟩]
    let close : Stimulus := ⟨view, .actionSurfaceClosed ⟨1⟩⟩
    ∃ moment ∈ ((initial .standard).run earlier).history (request :: (between ++ [close])),
      moment.Resyncs := by
  intro view earlier request between close
  have started : ∃ moment ∈ (initial .standard).history earlier, moment.StartsMove ⟨1⟩ := by
    refine ⟨_, List.mem_cons_of_mem _ (List.mem_singleton.mpr rfl), .structuralMove, ?_, rfl⟩
    change _ ∈ Outcome.actions _
    decide
  have found : (((initial .standard).run earlier).history (request :: between)).find?
      (·.event.reportsClose) = none := rfl
  have resynced := (resync_after_request .standard earlier between request close ⟨1⟩ started
    (by decide) (by decide) rfl (by decide)).2
  apply resynced
  intro moment first
  exact absurd (found.symm.trans first) (Option.some_ne_none moment).symm

/-- The late close of a surface of another kind uses up the command, and the close of the surface
that it was given under leads to nothing. -/
theorem resync_lost :
    ¬ ∀ (settings : Settings) (earlier between : List Stimulus) (request close : Stimulus)
      (surface : Id),
      ((initial settings).run earlier).surfaces.activeSurface? = some surface →
      (∃ moment ∈ (initial settings).history earlier, moment.StartsMove surface) →
      request.event.asksStructural = true →
      (∀ stimulus ∈ between, stimulus.event ≠ .hostDestroyed) →
      close.event = .actionSurfaceClosed surface →
      (((initial settings).run (earlier ++ request :: between)).surfaces.closed
        surface).2.isSome = true →
      ∃ moment ∈ ((initial settings).run earlier).history (request :: (between ++ [close])),
        moment.Resyncs := by
  intro never_lost
  let view : HostView := Host.initial.view .still
  let earlier : List Stimulus :=
    [⟨view, .paneAnnounced (.book ⟨7⟩ none) none none⟩, ⟨view, .itemToggled ⟨42⟩ none⟩,
      ⟨view, .itemToggled ⟨42⟩ none⟩, ⟨view, .itemToggled ⟨42⟩ (some .structuralMove)⟩]
  let request : Stimulus := ⟨view, .shelfRequest ⟨.promoteNotes ⟨7⟩ [⟨42⟩], none⟩⟩
  let between : List Stimulus := [⟨view, .actionSurfaceClosed ⟨1⟩⟩]
  let close : Stimulus := ⟨view, .actionSurfaceClosed ⟨2⟩⟩
  have started : ∃ moment ∈ (initial .standard).history earlier, moment.StartsMove ⟨2⟩ := by
    refine ⟨_, List.mem_append_right [_, _, _] (List.mem_singleton.mpr rfl), .structuralMove, ?_,
      rfl⟩
    change _ ∈ Outcome.actions _
    decide
  have resynced := never_lost .standard earlier between request close ⟨2⟩ (by decide) started rfl
    (by decide) rfl (by decide)
  revert resynced
  decide

end Coordinator

end Panes
