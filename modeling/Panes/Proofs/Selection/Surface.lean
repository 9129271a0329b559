import Panes.Proofs.Selection
import Panes.Proofs.Surface.History
import Panes.Session

/-!
# The surface of a selection

The number of selected entries is kept twice, in the selection and with the shown surface. An effect
that changes one of them changes the other as well or finishes the surface, so both always agree.
-/

namespace Panes

namespace Focus

/-- The list pane, its selection and the surfaces fit together. -/
structure Consistent (focus : Focus) : Prop where
  /-- What is kept of surfaces fits together. -/
  orderly : focus.surfaces.Orderly
  /-- Only list panes have a selection. -/
  listed : ∀ list, focus.list = some list → list.pane.kind.isList = true
  /-- No entry is selected twice. -/
  distinct : ∀ list, focus.list = some list → list.selection.ids.Nodup
  /-- A shown surface knows how many entries are selected. -/
  counted : ∀ count surface, focus.surfaces.phase = .active count surface →
    ∃ list, focus.list = some list ∧ list.selection.count = count

theorem Consistent.has_descriptor {focus : Focus} (consistent : focus.Consistent)
    {list : ListPane} (listed : focus.list = some list)
    (descriptor : Option Surface.Descriptor) :
    ∃ offered, descriptor.or list.defaultDescriptor? = some offered := by
  have own : list.defaultDescriptor?.isSome := by
    rw [ListPane.defaultDescriptor?, Surface.Descriptor.isSome_forPane?]
    exact consistent.listed list listed
  cases descriptor with
  | some descriptor => exact ⟨descriptor, rfl⟩
  | none => exact Option.isSome_iff_exists.mp own

end Focus

open Surface

namespace Effect

theorem consistent_toggle {focus : Focus} (consistent : focus.Consistent) (id : ItemId)
    (descriptor : Option Descriptor) : ((toggle id descriptor).apply focus).1.Consistent := by
  cases listed : focus.list with
  | none => simpa only [apply, listed] using consistent
  | some list =>
    obtain ⟨offered, offered_eq⟩ := consistent.has_descriptor listed descriptor
    simp only [apply, listed, offered_eq]
    refine ⟨Controller.orderly_update consistent.orderly _ _, ?_, ?_, ?_⟩
    · rintro _ ⟨⟩
      exact consistent.listed list listed
    · rintro _ ⟨⟩
      exact Selection.nodup_toggle (consistent.distinct list listed) id
    · intro count surface active
      exact ⟨_, rfl, (Controller.count_of_update active).symm⟩

/-- Finishing the surface is right whatever becomes of the selection, as long as no entry is
selected twice. -/
theorem consistent_finish {focus : Focus} (consistent : focus.Consistent)
    (next : Option ListPane)
    (listed : ∀ list, next = some list → list.pane.kind.isList = true)
    (distinct : ∀ list, next = some list → list.selection.ids.Nodup) :
    Focus.Consistent ⟨next, focus.surfaces.finish.1⟩ where
  orderly := Controller.orderly_finish consistent.orderly
  listed := listed
  distinct := distinct
  counted := by
    intro count surface active
    exact absurd active (focus.surfaces.finish_not_active count surface)

theorem isList_of_listFor {pane : Option Pane} {list : ListPane}
    (listed : pane.bind Coordinator.listFor = some list) :
    list.pane.kind.isList = true ∧ list.selection = .empty := by
  obtain ⟨pane, -, fresh⟩ := Option.bind_eq_some_iff.mp listed
  unfold Coordinator.listFor at fresh
  split at fresh
  · rename_i isList
    cases fresh
    exact ⟨isList, rfl⟩
  · cases fresh

/-- A pane that takes the place of the list pane brings no selection. -/
theorem selection_replace (focus : Focus) (pane : Option Pane) :
    ((replace pane).apply focus).1.selection = .empty := by
  cases listed : pane.bind Coordinator.listFor with
  | none => exact Focus.selection_of_none listed
  | some list =>
    simp only [apply, listed, Focus.selection]
    exact (isList_of_listFor listed).2

theorem consistent_close {focus : Focus} (consistent : focus.Consistent) (surface : Id) :
    ((close surface).apply focus).1.Consistent := by
  refine ⟨Controller.orderly_closed consistent.orderly surface, ?_, ?_, ?_⟩
  · intro list listed
    simp only [apply] at listed
    split at listed
    · obtain ⟨before, before_eq, rfl⟩ := Option.map_eq_some_iff.mp listed
      exact consistent.listed before before_eq
    · exact consistent.listed list listed
  · intro list listed
    simp only [apply] at listed
    split at listed
    · obtain ⟨before, before_eq, rfl⟩ := Option.map_eq_some_iff.mp listed
      exact .nil
    · exact consistent.distinct list listed
  · intro count shown active
    simp only [apply] at active ⊢
    rw [Controller.phase_closed consistent.orderly] at active
    split at active
    · cases active
    · rename_i standing
      rw [not_or] at standing
      -- The surface is still shown, so the report was on another one and the entries stay.
      have kept : ¬ (focus.surfaces.closed surface).2.any (·.hostInitiated) = true :=
        mt (Controller.dismissed_iff consistent.orderly surface).mp standing.2
      rw [if_neg kept]
      exact consistent.counted count shown active

/-- What fits together before an effect fits together after it. -/
theorem consistent_apply {focus : Focus} (consistent : focus.Consistent) (effect : Effect) :
    (effect.apply focus).1.Consistent := by
  cases effect with
  | keep => exact consistent
  | toggle id descriptor => exact consistent_toggle consistent id descriptor
  | finish => exact consistent_finish consistent _ consistent.listed consistent.distinct
  | clear =>
    apply consistent_finish consistent
    · intro list listed
      obtain ⟨before, before_eq, rfl⟩ := Option.map_eq_some_iff.mp listed
      exact consistent.listed before before_eq
    · intro list listed
      obtain ⟨before, -, rfl⟩ := Option.map_eq_some_iff.mp listed
      exact .nil
  | replace pane =>
    apply consistent_finish consistent
    · intro list listed
      exact (isList_of_listFor listed).1
    · intro list listed
      rw [(isList_of_listFor listed).2]
      exact .nil
  | close surface => exact consistent_close consistent surface
  | tearDown =>
    refine ⟨Controller.orderly_reset _, ?_, ?_, ?_⟩
    · rintro _ ⟨⟩
    · rintro _ ⟨⟩
    · rintro _ _ ⟨⟩

end Effect

namespace Coordinator

theorem consistent_run (settings : Settings) (stimuli : List Stimulus) :
    ((initial settings).run stimuli).focus.Consistent := by
  apply run_invariant fun state => state.focus.Consistent
  · exact ⟨Controller.orderly_initial, by simp [focus, initial], by simp [focus, initial],
      by simp [focus, initial, Controller.initial]⟩
  · intro moment consistent
    rw [moment.focus_after]
    exact Effect.consistent_apply consistent moment.effect

/-- A shown surface counts the entries that are selected in the list pane, and there is at least
one. A surface that is finishing was asked to close, and its close was not reported since. -/
theorem surface_counts_selection (settings : Settings) (stimuli : List Stimulus) :
    (∀ count surface,
      ((initial settings).run stimuli).surfaces.phase = .active count surface →
        ∃ list, ((initial settings).run stimuli).list = some list ∧
          list.selection.ids.Nodup ∧ list.selection.count = count ∧ 0 < count) ∧
    ∀ surface, ((initial settings).run stimuli).surfaces.phase = .finishing surface →
      Since (fun moment => moment.Emits (.finish surface))
        (fun moment => moment.event = .actionSurfaceClosed surface)
        ((initial settings).history stimuli) := by
  have consistent := consistent_run settings stimuli
  constructor
  · intro count surface active
    obtain ⟨list, listed, counted⟩ := consistent.counted count surface active
    exact ⟨list, listed, consistent.distinct list listed, counted,
      consistent.orderly.positive count surface active⟩
  · intro surface finishing
    exact since_finish_of_finishing settings stimuli surface finishing

/-- Two notes are selected, and then the selection is dropped. -/
theorem surface_counts_two_notes :
    let view : HostView := Host.initial.view .still
    let selected : List Stimulus :=
      [⟨view, .paneAnnounced (.book ⟨7⟩ none) none none⟩, ⟨view, .itemToggled ⟨43⟩ none⟩,
        ⟨view, .itemToggled ⟨42⟩ none⟩]
    let dropped : List Stimulus := selected ++ [⟨view, .selectionCleared⟩]
    (∃ list, ((initial .standard).run selected).list = some list ∧ list.selection.ids.Nodup ∧
      list.selection.count = 2 ∧ 0 < 2) ∧
    Since (fun moment => moment.Emits (.finish ⟨1⟩))
      (fun moment => moment.event = .actionSurfaceClosed ⟨1⟩)
      ((initial .standard).history dropped) := by
  intro view selected dropped
  have active : ((initial .standard).run selected).surfaces.phase = .active 2 ⟨1⟩ := by decide
  have finishing : ((initial .standard).run dropped).surfaces.phase = .finishing ⟨1⟩ := by decide
  exact ⟨(surface_counts_selection .standard selected).1 2 ⟨1⟩ active,
    (surface_counts_selection .standard dropped).2 ⟨1⟩ finishing⟩

end Coordinator

end Panes
