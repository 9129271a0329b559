import Panes.Proofs.Background
import Panes.Proofs.Selection.Surface
import Panes.Session

/-!
# Selections without a surface

With the clicks reversed a note can be opened while entries are selected. This finishes the surface
and leaves the selection, so until the selection changes next it is stranded: its entries are
selected, and no surface is shown for them. There is no other way to get there.
-/

namespace Panes

open Surface

namespace Focus

/-- Entries are selected, and no surface is shown for them. -/
def Stranded (focus : Focus) : Prop :=
  0 < focus.selection.count ∧ focus.surfaces.activeSurface? = none

theorem not_stranded_of_active {focus : Focus} {surface : Id}
    (active : focus.surfaces.activeSurface? = some surface) : ¬ focus.Stranded := by
  rintro ⟨-, inactive⟩
  rw [active] at inactive
  cases inactive

theorem not_stranded_of_empty {focus : Focus} (empty : focus.selection = .empty) :
    ¬ focus.Stranded := by
  rintro ⟨selected, -⟩
  rw [empty] at selected
  exact Nat.lt_irrefl 0 selected

end Focus

namespace Effect

/-- After the effect a selection, if there is one, has its surface. -/
def settles : Effect → Bool
  | keep | finish | close _ => false
  | toggle _ _ | clear | replace _ | tearDown => true

theorem not_stranded_toggle {focus : Focus} (consistent : focus.Consistent) (id : ItemId)
    (descriptor : Option Descriptor) : ¬ ((toggle id descriptor).apply focus).1.Stranded := by
  cases listed : focus.list with
  | none =>
    apply Focus.not_stranded_of_empty
    simp only [apply, listed]
    exact Focus.selection_of_none listed
  | some list =>
    obtain ⟨offered, offered_eq⟩ := consistent.has_descriptor listed descriptor
    simp only [apply, listed, offered_eq]
    rintro ⟨selected, inactive⟩
    have selected : 0 < (list.toggle id).selection.count := selected
    have empty := (Controller.activeSurface?_update_eq_none_iff _ _ _).mp inactive
    omega

theorem stranded_finish (focus : Focus) :
    (finish.apply focus).1.Stranded ↔ 0 < focus.selection.count := by
  have selection_eq : (finish.apply focus).1.selection = focus.selection := rfl
  have inactive : (finish.apply focus).1.surfaces.activeSurface? = none :=
    focus.surfaces.activeSurface?_finish
  rw [Focus.Stranded, selection_eq]
  exact and_iff_left inactive

/-- A selection is not stranded by the report of a close, as the entries go with a surface that the
user dismissed. -/
theorem stranded_close {focus : Focus} (consistent : focus.Consistent) (surface : Id) :
    ((close surface).apply focus).1.Stranded ↔ focus.Stranded := by
  have dismissed := Controller.dismissed_iff consistent.orderly surface
  have active_eq := Controller.activeSurface?_closed consistent.orderly surface
  simp only [apply]
  by_cases active : focus.surfaces.activeSurface? = some surface
  · rw [if_pos (dismissed.mpr active)]
    apply iff_of_false
    · exact Focus.not_stranded_of_empty (Focus.selection_clear _ _)
    · exact Focus.not_stranded_of_active active
  · rw [if_neg (mt dismissed.mp active)]
    rw [if_neg active] at active_eq
    simp only [Focus.Stranded, active_eq]
    rfl

/-- Opening a note over a selection strands it, and it stays so until the next effect that
settles. -/
theorem stranded_apply {focus : Focus} (consistent : focus.Consistent) (effect : Effect) :
    (effect.apply focus).1.Stranded ↔
      effect = .finish ∧ 0 < focus.selection.count ∨ effect.settles = false ∧ focus.Stranded := by
  cases effect with
  | keep => simp [apply, settles]
  | toggle id descriptor =>
    exact iff_of_false (not_stranded_toggle consistent id descriptor) (by simp [settles])
  | finish =>
    rw [stranded_finish]
    have selected_of : focus.Stranded → 0 < focus.selection.count := And.left
    simpa [settles] using selected_of
  | clear =>
    exact iff_of_false (Focus.not_stranded_of_empty (Focus.selection_clear _ _)) (by simp [settles])
  | replace pane =>
    exact iff_of_false (Focus.not_stranded_of_empty (selection_replace focus pane))
      (by simp [settles])
  | close surface => simp [settles, stranded_close consistent surface]
  | tearDown => exact iff_of_false (Focus.not_stranded_of_empty rfl) (by simp [settles])

end Effect

namespace Moment

/-- A note is opened with a long click while entries are selected. -/
def LeavesSelection (moment : Moment) : Prop :=
  moment.before.reverseNoteClick = true ∧ 0 < moment.before.selectionCount ∧
    ∃ noteId, moment.event = .noteLongClicked noteId ∧ (moment.view.note noteId).isSome = true

/-- The entries that are selected are toggled, dropped or replaced. -/
def Settles (moment : Moment) : Prop := moment.effect.settles = true

end Moment

namespace Coordinator

theorem opening_eq_finish_iff {view : HostView} {noteId : NoteId} :
    opening view noteId = .finish ↔ (view.note noteId).isSome = true := by
  unfold opening
  cases view.note noteId <;> simp

/-- A surface is finished over a selection only by a reversed long click. -/
theorem finish_iff_leavesSelection {moment : Moment} :
    moment.effect = .finish ∧ 0 < moment.before.selectionCount ↔ moment.LeavesSelection := by
  obtain ⟨state, view, event⟩ := moment
  simp only [Moment.effect, Moment.LeavesSelection, Moment.view, Moment.event]
  -- With the usual clicks a note is opened only while nothing is selected.
  fun_cases effect view state event <;> simp_all [opening_eq_finish_iff, and_comm]

/-- What one event does to a stranded selection, and how one comes about. -/
theorem stranded_after {moment : Moment} (consistent : moment.before.focus.Consistent) :
    moment.after.focus.Stranded ↔
      moment.LeavesSelection ∨ ¬ moment.Settles ∧ moment.before.focus.Stranded := by
  have left : moment.effect = .finish ∧ 0 < moment.before.focus.selection.count ↔
      moment.LeavesSelection := by
    rw [← selectionCount_eq]
    exact finish_iff_leavesSelection
  rw [moment.focus_after, Effect.stranded_apply consistent, left, Moment.Settles,
    Bool.not_eq_true]

/-- The selection is stranded exactly if a note was opened over it and it did not change since. -/
theorem stranded_run_iff (settings : Settings) (stimuli : List Stimulus) :
    ((initial settings).run stimuli).focus.Stranded ↔
      Since Moment.LeavesSelection Moment.Settles ((initial settings).history stimuli) := by
  induction stimuli using List.reverseRecOn with
  | nil => exact iff_of_false (Focus.not_stranded_of_empty rfl) (not_since_nil _ _)
  | append_singleton stimuli stimulus ih =>
    rw [run_snoc, history_snoc, since_snoc, ← ih]
    exact stranded_after (consistent_run settings stimuli)

theorem reverseNoteClick_history (settings : Settings) (stimuli : List Stimulus) :
    ∀ moment ∈ (initial settings).history stimuli,
      moment.before.reverseNoteClick = settings.reverseNoteClick := by
  apply history_invariant fun state => state.reverseNoteClick = settings.reverseNoteClick
  · rfl
  · intro moment kept
    exact (reverseNoteClick_handle moment.view moment.before moment.event).trans kept

/-- A selection has its surface exactly if no note was opened over it since it changed last. With
the usual clicks no note is ever opened over a selection, so it always has its surface. -/
theorem selection_has_surface_iff (settings : Settings) (stimuli : List Stimulus) :
    ((0 < ((initial settings).run stimuli).selectionCount →
        ((initial settings).run stimuli).surfaces.isActive = true) ↔
      ¬ Since Moment.LeavesSelection Moment.Settles ((initial settings).history stimuli)) ∧
    (settings.reverseNoteClick = false →
      0 < ((initial settings).run stimuli).selectionCount →
        ((initial settings).run stimuli).surfaces.isActive = true) := by
  have exact_condition : (0 < ((initial settings).run stimuli).selectionCount →
        ((initial settings).run stimuli).surfaces.isActive = true) ↔
      ¬ Since Moment.LeavesSelection Moment.Settles ((initial settings).history stimuli) := by
    rw [← stranded_run_iff, selectionCount_eq, Controller.isActive_eq_isSome,
      Option.isSome_iff_ne_none]
    exact not_and.symm
  refine ⟨exact_condition, ?_⟩
  intro usual
  rw [exact_condition]
  intro since
  obtain ⟨moment, member, reversed, -⟩ := since.exists_mem
  rw [reverseNoteClick_history settings stimuli moment member, usual] at reversed
  cases reversed

/-- With the clicks reversed, a long click on the only selected note leaves it without a surface. -/
theorem selection_without_surface :
    ¬ ∀ (settings : Settings) (stimuli : List Stimulus),
      0 < ((initial settings).run stimuli).selectionCount →
        ((initial settings).run stimuli).surfaces.isActive = true := by
  intro always
  let settings : Settings := { Settings.standard with reverseNoteClick := true }
  let view : HostView := (Host.initial.addNote ⟨⟨42⟩, ⟨7⟩⟩).view .still
  let events : List Event :=
    [.paneAnnounced (.book ⟨7⟩ none) none none, .noteClicked ⟨42⟩, .noteLongClicked ⟨42⟩]
  have shown := always settings (events.map (Stimulus.mk view)) (by decide)
  revert shown
  decide

end Coordinator

end Panes
