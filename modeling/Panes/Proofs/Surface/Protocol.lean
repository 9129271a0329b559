import Panes.Proofs.Surface.History

/-!
# The commands to the host

The host has room for one surface. A `Slot` is what it makes of the commands and of what happens to
itself, and it takes only commands that make sense: a surface is started in the empty slot under a
number that is greater than all before it, and only the surface in the slot is refreshed or
finished. The coordinator never sends another command, and both sides always agree on the surface
that is shown.
-/

namespace Panes

open Surface

namespace Surface

/-- The place for a surface on the host's side. -/
structure Slot where
  /-- The surface that is shown. -/
  shown : Option Id
  /-- The surfaces started so far, the last one first. -/
  started : List Id
  deriving DecidableEq, Repr

namespace Slot

/-- Nothing has been shown yet. -/
def empty : Slot := ⟨none, []⟩

/-- Carry out a command, if it makes sense. -/
def obey (slot : Slot) : Command → Option Slot
  | .start surface _ =>
    if slot.shown = none ∧ ∀ earlier ∈ slot.started, earlier.number < surface.number then
      some ⟨some surface, surface :: slot.started⟩
    else
      none
  | .invalidate surface count =>
    if slot.shown = some surface ∧ 0 < count then some slot else none
  | .finish surface =>
    if slot.shown = some surface then some { slot with shown := none } else none

/-- The slot after something happened to the host. -/
def notice (slot : Slot) : Event → Slot
  | .hostDestroyed => { slot with shown := none }
  | .actionSurfaceClosed surface =>
    if slot.shown = some surface then { slot with shown := none } else slot
  | _ => slot

/-- Notice the event of a moment, and carry out the commands that it leads to. -/
def follow (slot : Slot) (moment : Moment) : Option Slot :=
  moment.outcome.surfaceCommands.foldlM obey (slot.notice moment.event)

/-- The slot is what the controller takes it to be. -/
structure Agrees (slot : Slot) (controller : Controller) : Prop where
  shown_eq : slot.shown = controller.activeSurface?
  below : ∀ earlier ∈ slot.started, earlier.number < controller.nextNumber
  counted : controller.nextNumber = slot.started.length + 1

theorem notice_own {slot : Slot} {moment : Moment} (own : moment.effect.isReport = false) :
    slot.notice moment.event = slot := by
  cases event_eq : moment.event with
  | hostDestroyed =>
    have report : moment.effect = .tearDown := Coordinator.effect_eq_tearDown_iff.mpr event_eq
    rw [report] at own
    cases own
  | actionSurfaceClosed surface =>
    have report : moment.effect = .close surface := Coordinator.effect_eq_close_iff.mpr event_eq
    rw [report] at own
    cases own
  | _ => rfl

/-- Each step of the coordinator is one that the host can follow. -/
theorem follow_step {slot : Slot} (moment : Moment)
    (agrees : slot.Agrees moment.before.surfaces) (orderly : moment.before.surfaces.Orderly) :
    ∃ next, slot.follow moment = some next ∧ next.Agrees moment.after.surfaces := by
  obtain ⟨shown_eq, below, counted⟩ := agrees
  rw [follow, Moment.surfaceCommands_eq]
  have step := moment.surfaceStep
  generalize effect_eq : moment.effect = effect at step
  generalize moment.command? = command at step ⊢
  generalize after_eq : moment.after.surfaces = after at step ⊢
  -- Reports change the slot before any command does; every other step finds it as it was.
  cases step with
  | keep own =>
    rw [notice_own (effect_eq ▸ own)]
    exact ⟨slot, rfl, shown_eq, below, counted⟩
  | idle own inactive =>
    rw [notice_own (effect_eq ▸ own)]
    exact ⟨slot, rfl, shown_eq.trans inactive, below, counted⟩
  | finish own =>
    rw [notice_own (effect_eq ▸ own), Controller.finish_command]
    cases active : moment.before.surfaces.activeSurface? with
    | none =>
      rw [Controller.finish_of_inactive active]
      exact ⟨slot, rfl, shown_eq, below, counted⟩
    | some surface =>
      refine ⟨{ slot with shown := none }, ?_, by simp, by simpa using below,
        by simpa using counted⟩
      simp [obey, shown_eq, active]
  | invalidate own active selected =>
    rw [notice_own (effect_eq ▸ own)]
    refine ⟨slot, ?_, shown_eq.trans active, below, counted⟩
    simp [obey, shown_eq, active, Nat.pos_of_ne_zero selected]
  | start own inactive selected =>
    rw [notice_own (effect_eq ▸ own)]
    refine ⟨⟨some ⟨moment.before.surfaces.nextNumber⟩, ⟨moment.before.surfaces.nextNumber⟩ ::
      slot.started⟩, ?_, rfl, ?_, ?_⟩
    · simp only [Option.toList_some, List.foldlM_cons, List.foldlM_nil, obey, shown_eq, inactive,
        true_and]
      rw [if_pos below]
      rfl
    · intro earlier member
      change earlier.number < moment.before.surfaces.nextNumber + 1
      rcases List.mem_cons.mp member with rfl | older
      · exact Nat.lt_succ_self _
      · exact Nat.lt_succ_of_lt (below earlier older)
    · change moment.before.surfaces.nextNumber + 1 = _
      rw [counted]
      rfl
  | close surface =>
    have event_eq : moment.event = .actionSurfaceClosed surface :=
      Coordinator.effect_eq_close_iff.mp effect_eq
    have active := Controller.activeSurface?_closed orderly surface
    rw [event_eq, notice]
    by_cases named : slot.shown = some surface
    · rw [if_pos named]
      rw [if_pos (shown_eq ▸ named)] at active
      exact ⟨{ slot with shown := none }, rfl, active.symm, by simpa using below,
        by simpa using counted⟩
    · rw [if_neg named]
      rw [if_neg (shown_eq ▸ named)] at active
      exact ⟨slot, rfl, shown_eq.trans active.symm, by simpa using below, by simpa using counted⟩
  | tearDown =>
    have event_eq : moment.event = .hostDestroyed :=
      Coordinator.effect_eq_tearDown_iff.mp effect_eq
    rw [event_eq]
    exact ⟨{ slot with shown := none }, rfl, rfl, below, counted⟩

theorem agrees_initial (settings : Settings) :
    empty.Agrees (Coordinator.initial settings).surfaces :=
  ⟨rfl, by simp [empty], rfl⟩

end Slot

end Surface

namespace Coordinator

/-- The host can follow a whole run, and the slot agrees with the controller at its end. -/
theorem exists_slot_agrees (settings : Settings) (stimuli : List Stimulus) :
    ∃ slot : Slot, ((initial settings).history stimuli).foldlM Slot.follow .empty = some slot ∧
      slot.Agrees ((initial settings).run stimuli).surfaces := by
  induction stimuli using List.reverseRecOn with
  | nil => exact ⟨.empty, rfl, Slot.agrees_initial settings⟩
  | append_singleton stimuli stimulus ih =>
    obtain ⟨slot, followed, agrees⟩ := ih
    let moment := ((initial settings).run stimuli).meet stimulus
    obtain ⟨next, step, agreesNext⟩ :=
      Slot.follow_step moment agrees (orderly_run settings stimuli)
    refine ⟨next, ?_, ?_⟩
    · rw [history_snoc, List.foldlM_append, followed]
      simpa using step
    · rw [run_snoc]
      exact agreesNext

/-- However a run goes, the host can follow all commands of its history, and it shows just the
surface that the coordinator takes to be shown. This holds after every event, as each beginning of a
run is a run. As many numbers were given as surfaces were started. -/
theorem slot_follows_history (settings : Settings) (stimuli : List Stimulus) :
    ∃ slot, ((initial settings).history stimuli).foldlM Slot.follow .empty = some slot ∧
      slot.shown = ((initial settings).run stimuli).surfaces.activeSurface? ∧
      ((initial settings).run stimuli).surfaces.nextNumber = slot.started.length + 1 := by
  obtain ⟨slot, followed, agrees⟩ := exists_slot_agrees settings stimuli
  exact ⟨slot, followed, agrees.shown_eq, agrees.counted⟩

end Coordinator

end Panes
