import Panes.Proofs.Presentation
import Panes.Proofs.Surface.Tracking
import Mathlib.Data.List.Induction

/-!
# Surfaces in the course of a run

The reports of the host apart, an event does one of five things to the surfaces: nothing at all, or
what the table of phases says. `SurfaceStep` lists them, and what each of them keeps, a run keeps.
So the tracked surfaces can be read off the history: they are those that were started and not
reported closed since.
-/

namespace Panes

open Surface

/-- The effect comes from the host: a surface closed, or the host is gone. -/
def Effect.isReport : Effect → Bool
  | close _ | tearDown => true
  | _ => false

/-- What an effect can do to the surfaces, and the command that goes with it. -/
inductive SurfaceStep (before : Controller) : Effect → Controller → Option Command → Prop
  | keep {effect : Effect} (own : effect.isReport = false) : SurfaceStep before effect before none
  | idle {effect : Effect} (own : effect.isReport = false)
      (inactive : before.activeSurface? = none) :
      SurfaceStep before effect { before with phase := .inactive } none
  | finish {effect : Effect} (own : effect.isReport = false) :
      SurfaceStep before effect before.finish.1 before.finish.2
  | invalidate {effect : Effect} {surface : Id} {count : Nat} (own : effect.isReport = false)
      (active : before.activeSurface? = some surface) (selected : count ≠ 0) :
      SurfaceStep before effect { before with phase := .active count surface }
        (some (.invalidate surface count))
  | start {effect : Effect} {count : Nat} {descriptor : Descriptor}
      (own : effect.isReport = false) (inactive : before.activeSurface? = none)
      (selected : count ≠ 0) :
      SurfaceStep before effect (before.start count descriptor).1
        (some (.start ⟨before.nextNumber⟩ descriptor))
  | close (surface : Id) : SurfaceStep before (.close surface) (before.closed surface).1 none
  | tearDown : SurfaceStep before .tearDown before.reset none

theorem SurfaceStep.update (before : Controller) {effect : Effect} (own : effect.isReport = false)
    (count : Nat) (descriptor : Descriptor) :
    SurfaceStep before effect (before.update count descriptor).1
      (before.update count descriptor).2 := by
  rcases before.update_cases count descriptor with
    ⟨-, inactive, update_eq⟩ | ⟨-, update_eq⟩ | ⟨surface, selected, active, update_eq⟩ |
      ⟨selected, inactive, update_eq⟩
  · rw [update_eq]
    exact .idle own inactive
  · rw [update_eq]
    exact .finish own
  · rw [update_eq]
    exact .invalidate own active selected
  · rw [update_eq]
    exact .start own inactive selected

/-- Every effect takes one of these steps. -/
theorem Effect.surfaceStep_apply (effect : Effect) (focus : Focus) :
    SurfaceStep focus.surfaces effect (effect.apply focus).1.surfaces (effect.apply focus).2 := by
  cases effect with
  | keep => exact .keep rfl
  | toggle id descriptor =>
    simp only [apply]
    split
    · exact .keep rfl
    · split
      · exact .keep rfl
      · exact .update _ rfl _ _
  | finish => exact .finish rfl
  | clear => exact .finish rfl
  | replace pane => exact .finish rfl
  | close surface => exact .close surface
  | tearDown => exact .tearDown

theorem Moment.surfaceStep (moment : Moment) :
    SurfaceStep moment.before.surfaces moment.effect moment.after.surfaces moment.command? := by
  have surfaces_eq := congrArg Focus.surfaces moment.focus_after
  change moment.after.surfaces = _ at surfaces_eq
  rw [surfaces_eq]
  exact moment.effect.surfaceStep_apply moment.before.focus

namespace SurfaceStep

theorem orderly {before after : Controller} {effect : Effect} {command : Option Command}
    (step : SurfaceStep before effect after command) (orderly : before.Orderly) :
    after.Orderly := by
  cases step with
  | keep own => exact orderly
  | idle own inactive => exact Controller.orderly_idle orderly inactive
  | finish own => exact Controller.orderly_finish orderly
  | invalidate own active selected => exact Controller.orderly_invalidate orderly active selected
  | start own inactive selected => exact Controller.orderly_start orderly inactive selected _
  | close surface => exact Controller.orderly_closed orderly surface
  | tearDown => exact Controller.orderly_reset _

/-- A surface is tracked after a step if the step started it, or if it was tracked before and the
host did not report its end. -/
theorem mem_tracked_iff {before after : Controller} {effect : Effect} {command : Option Command}
    (step : SurfaceStep before effect after command) (orderly : before.Orderly) (surface : Id)
    (tag : Option Tag) :
    (surface, tag) ∈ after.tracked ↔
      (∃ descriptor, command = some (.start surface descriptor) ∧ descriptor.tag = tag) ∨
        ¬ (effect = .close surface ∨ effect = .tearDown) ∧ (surface, tag) ∈ before.tracked := by
  have standing {effect : Effect} (own : effect.isReport = false) :
      ¬ (effect = .close surface ∨ effect = .tearDown) := by
    rintro (rfl | rfl) <;> cases own
  cases step with
  | keep own => simp [standing own]
  | idle own inactive => simp [standing own, Controller.tracked_idle inactive]
  | finish own => simp [standing own, Controller.finish_command]
  | invalidate own active selected => simp [standing own, Controller.tracked_invalidate active]
  | start own inactive selected =>
    rw [Controller.tracked_start inactive]
    simp only [List.mem_append, List.mem_singleton, Prod.mk.injEq, Option.some.injEq,
      Command.start.injEq, standing own, not_false_iff, true_and]
    constructor
    · rintro (older | ⟨rfl, rfl⟩)
      · exact .inr older
      · exact .inl ⟨_, ⟨rfl, rfl⟩, rfl⟩
    · rintro (⟨_, ⟨rfl, rfl⟩, rfl⟩ | older)
      · exact .inr ⟨rfl, rfl⟩
      · exact .inl older
  | close other =>
    have different : surface ≠ other ↔ ¬ Effect.close other = .close surface := by
      rw [Effect.close.injEq]
      exact ne_comm
    rw [Controller.tracked_closed orderly, List.mem_filter, bne_iff_ne, different]
    simp [and_comm]
  | tearDown => simp

/-- A surface is shown after a step if the step started it, or if it was shown before and the step
neither finished it nor reports its end. -/
theorem activeSurface?_eq_some_iff {before after : Controller} {effect : Effect}
    {command : Option Command} (step : SurfaceStep before effect after command)
    (orderly : before.Orderly) (surface : Id) :
    after.activeSurface? = some surface ↔
      (∃ descriptor, command = some (.start surface descriptor)) ∨
        ¬ (effect = .close surface ∨ effect = .tearDown) ∧ command ≠ some (.finish surface) ∧
          before.activeSurface? = some surface := by
  have standing {effect : Effect} (own : effect.isReport = false) :
      ¬ (effect = .close surface ∨ effect = .tearDown) := by
    rintro (rfl | rfl) <;> cases own
  cases step with
  | keep own => simp [standing own]
  | idle own inactive =>
    refine iff_of_false nofun ?_
    rintro (⟨descriptor, ⟨⟩⟩ | ⟨-, -, active⟩)
    rw [inactive] at active
    cases active
  | finish own =>
    rw [Controller.activeSurface?_finish, Controller.finish_command]
    refine iff_of_false (by simp) ?_
    rintro (⟨descriptor, started⟩ | ⟨-, unfinished, active⟩)
    · simp at started
    · exact unfinished (by rw [active, Option.map_some])
  | invalidate own active selected =>
    rw [active]
    change some _ = some surface ↔ _
    simp [standing own]
  | start own inactive selected => simp [inactive, eq_comm]
  | close other =>
    rw [Controller.activeSurface?_closed orderly]
    by_cases active : before.activeSurface? = some other
    · simp [active]
    · rw [if_neg active]
      constructor
      · intro shown
        refine .inr ⟨?_, nofun, shown⟩
        rintro (named | ended)
        · cases named
          exact active shown
        · cases ended
      · rintro (⟨descriptor, ⟨⟩⟩ | ⟨-, -, shown⟩)
        exact shown
  | tearDown => simp [Controller.activeSurface?, Controller.reset]

/-- A surface that is finishing was asked to close just now, or it was finishing before and its
close is not reported. -/
theorem finishing {before after : Controller} {effect : Effect} {command : Option Command}
    (step : SurfaceStep before effect after command) (orderly : before.Orderly) {surface : Id}
    (finishing : after.phase = .finishing surface) :
    command = some (.finish surface) ∨
      effect ≠ .close surface ∧ before.phase = .finishing surface := by
  cases step with
  | keep own =>
    refine .inr ⟨?_, finishing⟩
    rintro rfl
    cases own
  | idle own inactive => cases finishing
  | finish own =>
    cases active : before.activeSurface? with
    | none =>
      rw [Controller.finish_of_inactive active] at finishing
      refine .inr ⟨?_, finishing⟩
      rintro rfl
      cases own
    | some shown =>
      obtain ⟨count, phase⟩ := Controller.activeSurface?_eq_some_iff.mp active
      rw [Controller.finish_of_active phase] at finishing ⊢
      cases finishing
      exact .inl rfl
  | invalidate own active selected => cases finishing
  | start own inactive selected => cases finishing
  | close other =>
    rw [Controller.phase_closed orderly] at finishing
    split at finishing
    · cases finishing
    · rename_i standing
      refine .inr ⟨?_, finishing⟩
      rintro ⟨⟩
      exact standing (.inl finishing)
  | tearDown => cases finishing

/-- A surface is started under the next number, and no number is given twice. -/
theorem nextNumber_eq {before after : Controller} {effect : Effect} {command : Option Command}
    (step : SurfaceStep before effect after command) :
    (∃ descriptor, command = some (.start ⟨before.nextNumber⟩ descriptor) ∧
      after.nextNumber = before.nextNumber + 1) ∨
    (∀ surface descriptor, command ≠ some (.start surface descriptor)) ∧
      after.nextNumber = before.nextNumber := by
  cases step with
  | keep own => exact .inr ⟨by simp, rfl⟩
  | idle own inactive => exact .inr ⟨by simp, rfl⟩
  | finish own => exact .inr ⟨by simp [Controller.finish_command], before.nextNumber_finish⟩
  | invalidate own active selected => exact .inr ⟨by simp, rfl⟩
  | start own inactive selected => exact .inl ⟨_, rfl, rfl⟩
  | close surface => exact .inr ⟨by simp, before.nextNumber_closed surface⟩
  | tearDown => exact .inr ⟨by simp, rfl⟩

theorem nextNumber_le {before after : Controller} {effect : Effect} {command : Option Command}
    (step : SurfaceStep before effect after command) : before.nextNumber ≤ after.nextNumber := by
  rcases step.nextNumber_eq with ⟨-, -, next_eq⟩ | ⟨-, next_eq⟩ <;> omega

/-- The number of a started surface was not given before, and afterwards it is. -/
theorem number_of_start {before after : Controller} {effect : Effect} {command : Option Command}
    (step : SurfaceStep before effect after command) {surface : Id} {descriptor : Descriptor}
    (started : command = some (.start surface descriptor)) :
    before.nextNumber ≤ surface.number ∧ surface.number < after.nextNumber := by
  rcases step.nextNumber_eq with ⟨_, command_eq, next_eq⟩ | ⟨silent, -⟩
  · rw [command_eq] at started
    cases started
    rw [next_eq]
    exact ⟨Nat.le_refl _, Nat.lt_succ_self _⟩
  · exact absurd started (silent surface descriptor)

end SurfaceStep

namespace Coordinator

theorem orderly_run (settings : Settings) (stimuli : List Stimulus) :
    ((initial settings).run stimuli).surfaces.Orderly := by
  apply run_invariant fun state => state.surfaces.Orderly
  · exact Controller.orderly_initial
  · intro moment orderly
    exact moment.surfaceStep.orderly orderly

/-- The tracked surfaces are those that were started and not reported closed since, each with the
tag that it was started with. -/
theorem mem_tracked_run_iff (settings : Settings) (stimuli : List Stimulus) (surface : Id)
    (tag : Option Tag) :
    (surface, tag) ∈ ((initial settings).run stimuli).surfaces.tracked ↔
      Since (fun moment => ∃ descriptor,
          moment.Emits (.start surface descriptor) ∧ descriptor.tag = tag)
        (fun moment => moment.event = .actionSurfaceClosed surface ∨
          moment.event = .hostDestroyed)
        ((initial settings).history stimuli) := by
  induction stimuli using List.reverseRecOn with
  | nil => simp [initial, Controller.tracked, Controller.initial,
      Controller.activeSurface?]
  | append_singleton stimuli stimulus ih =>
    let moment := ((initial settings).run stimuli).meet stimulus
    have step := moment.surfaceStep.mem_tracked_iff (orderly_run settings stimuli) surface tag
    rw [run_snoc, history_snoc, since_snoc, ← ih, step]
    simp only [Moment.emits_iff, Moment.effect, effect_eq_close_iff, effect_eq_tearDown_iff]
    rfl

/-- A surface that is finishing was asked to close, and its close was not reported since. -/
theorem since_finish_of_finishing (settings : Settings) (stimuli : List Stimulus) (surface : Id)
    (finishing : ((initial settings).run stimuli).surfaces.phase = .finishing surface) :
    Since (fun moment => moment.Emits (.finish surface))
      (fun moment => moment.event = .actionSurfaceClosed surface)
      ((initial settings).history stimuli) := by
  induction stimuli using List.reverseRecOn with
  | nil => cases finishing
  | append_singleton stimuli stimulus ih =>
    rw [run_snoc] at finishing
    rw [history_snoc, since_snoc]
    let moment := ((initial settings).run stimuli).meet stimulus
    rcases moment.surfaceStep.finishing (orderly_run settings stimuli) finishing with
      asked | ⟨standing, already⟩
    · exact .inl (Moment.emits_iff.mpr asked)
    · refine .inr ⟨?_, ih already⟩
      intro closed
      exact standing (effect_eq_close_iff.mpr closed)

/-- The numbers that were given are below the next one. -/
theorem number_lt_of_started (settings : Settings) (stimuli : List Stimulus) {moment : Moment}
    (member : moment ∈ (initial settings).history stimuli) {surface : Id} {descriptor : Descriptor}
    (started : moment.Emits (.start surface descriptor)) :
    surface.number < ((initial settings).run stimuli).surfaces.nextNumber := by
  induction stimuli using List.reverseRecOn with
  | nil => cases member
  | append_singleton stimuli stimulus ih =>
    rw [history_snoc, List.mem_append, List.mem_singleton] at member
    rw [run_snoc]
    have step := (((initial settings).run stimuli).meet stimulus).surfaceStep
    rcases member with older | rfl
    · exact Nat.lt_of_lt_of_le (ih older) step.nextNumber_le
    · exact (step.number_of_start (Moment.emits_iff.mp started)).2

/-- A surface is started once. -/
theorem start_unique (settings : Settings) (stimuli : List Stimulus) {left right : Moment}
    (leftMem : left ∈ (initial settings).history stimuli)
    (rightMem : right ∈ (initial settings).history stimuli) {surface : Id}
    {descriptor other : Descriptor} (leftStart : left.Emits (.start surface descriptor))
    (rightStart : right.Emits (.start surface other)) : descriptor = other := by
  induction stimuli using List.reverseRecOn with
  | nil => cases leftMem
  | append_singleton stimuli stimulus ih =>
    rw [history_snoc, List.mem_append, List.mem_singleton] at leftMem rightMem
    -- The newest number is greater than all numbers before it.
    have fresh {older : Moment} (member : older ∈ (initial settings).history stimuli)
        {first second : Descriptor} (olderStart : older.Emits (.start surface first))
        (newestStart : (((initial settings).run stimuli).meet stimulus).Emits
          (.start surface second)) : False := by
      have less := number_lt_of_started settings stimuli member olderStart
      have step := (((initial settings).run stimuli).meet stimulus).surfaceStep
      have number_ge := (step.number_of_start (Moment.emits_iff.mp newestStart)).1
      exact Nat.lt_irrefl _ (Nat.lt_of_lt_of_le less number_ge)
    rcases leftMem with leftOlder | rfl <;> rcases rightMem with rightOlder | rfl
    · exact ih leftOlder rightOlder
    · exact (fresh leftOlder leftStart rightStart).elim
    · exact (fresh rightOlder rightStart leftStart).elim
    · rw [Moment.emits_iff] at leftStart rightStart
      rw [leftStart] at rightStart
      cases rightStart
      rfl

/-- A tracked surface has the tag that it was started with. -/
theorem tag_of_tracked {settings : Settings} {stimuli : List Stimulus} {moment : Moment}
    (member : moment ∈ (initial settings).history stimuli) {surface : Id} {descriptor : Descriptor}
    (started : moment.Emits (.start surface descriptor)) {tag : Option Tag}
    (tracked : (surface, tag) ∈ ((initial settings).run stimuli).surfaces.tracked) :
    tag = descriptor.tag := by
  obtain ⟨other, otherMem, own, otherStart, rfl⟩ :=
    ((mem_tracked_run_iff settings stimuli surface tag).mp tracked).exists_mem
  rw [start_unique settings stimuli member otherMem started otherStart]

end Coordinator

end Panes
