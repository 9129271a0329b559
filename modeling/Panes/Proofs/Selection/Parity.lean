import Panes.Proofs.Router
import Panes.Proofs.Selection.Surface
import Mathlib.Algebra.Ring.Parity
import Mathlib.Data.List.DropRight

/-!
# The selection as the parity of toggles

What is selected can be read off the history. Each click that counts as a toggle turns one entry
over, a few events drop the whole selection, and nothing else touches it. So an entry is selected
exactly if it was toggled an odd number of times since the selection was dropped last.
-/

namespace Panes

/-! ## What becomes of the selection -/

namespace Focus

theorem Consistent.nodup_selection {focus : Focus} (consistent : focus.Consistent) :
    focus.selection.ids.Nodup := by
  unfold selection
  split
  · rename_i list listed
    exact consistent.distinct list listed
  · exact .nil

end Focus

namespace Effect

theorem selection_toggle (focus : Focus) (id : ItemId)
    (descriptor : Option Surface.Descriptor) :
    ((toggle id descriptor).apply focus).1.selection =
      if focus.list.isSome then focus.selection.toggle id else focus.selection := by
  cases listed : focus.list with
  | none => simp [apply, listed]
  | some list =>
    cases offered : descriptor.or list.defaultDescriptor? <;>
      simp [apply, Focus.selection, listed, offered, ListPane.toggle]

/-- The selection goes with the surface that is shown for it, and with no other. -/
theorem selection_close {focus : Focus} (consistent : focus.Consistent) (surface : Surface.Id) :
    ((close surface).apply focus).1.selection =
      if focus.surfaces.activeSurface? = some surface then .empty else focus.selection := by
  have dismissed := Surface.Controller.dismissed_iff consistent.orderly surface
  simp only [apply]
  by_cases active : focus.surfaces.activeSurface? = some surface
  · rw [if_pos (dismissed.mpr active), if_pos active]
    exact Focus.selection_clear _ _
  · rw [if_neg (mt dismissed.mp active), if_neg active]
    rfl

/-- What an effect makes of the selection. -/
def nextSelection (focus : Focus) : Effect → Selection
  | keep | finish => focus.selection
  | toggle id _ => if focus.list.isSome then focus.selection.toggle id else focus.selection
  | clear | replace _ | tearDown => .empty
  | close surface =>
    if focus.surfaces.activeSurface? = some surface then .empty else focus.selection

theorem selection_apply {focus : Focus} (consistent : focus.Consistent) (effect : Effect) :
    (effect.apply focus).1.selection = effect.nextSelection focus := by
  cases effect with
  | keep | finish | tearDown => rfl
  | toggle id descriptor => exact selection_toggle focus id descriptor
  | clear => exact Focus.selection_clear _ _
  | replace pane => exact selection_replace focus pane
  | close surface => exact selection_close consistent surface

end Effect

namespace Coordinator

/-- What is selected in the visible list pane. Without a list pane that is nothing. -/
def selection (state : Coordinator) : Selection := state.focus.selection

theorem nextSelection_opening (view : HostView) (state : Coordinator) (noteId : NoteId) :
    (opening view noteId).nextSelection state.focus = state.selection := by
  unfold opening
  cases view.note noteId <;> rfl

theorem nextSelection_toggle (state : Coordinator) (id : ItemId)
    (descriptor : Option Surface.Descriptor) :
    (Effect.toggle id descriptor).nextSelection state.focus =
      if state.list.isSome then state.selection.toggle id else state.selection :=
  rfl

end Coordinator

namespace Moment

/-- The event drops the whole selection: another pane takes the place of the list pane, the panes or
the host are gone, the book on screen was deleted, the pane dropped its selection, the user
dismissed the surface, or the drawer leads away from it. -/
def clearsSelection (moment : Moment) : Bool :=
  match moment.event with
  | .paneAnnounced pane _ _ => !moment.before.router.current.any (·.sameIdentity pane)
  | .panesCleared | .hostDestroyed | .selectionCleared => true
  | .shelfResponse (.bookDeleted bookId) =>
    moment.before.router.current.bind Pane.bookId? = some bookId
  | .actionSurfaceClosed surface => moment.before.surfaces.activeSurface? = some surface
  | .drawerItemClicked item => !item.isBook && moment.before.surfaces.isActive
  | _ => false

/-- The entry that a click toggles, given that a list pane is visible. Which of the two clicks on a
note toggles it is a setting, and a short click goes on with a selection that was begun. -/
def toggled? (moment : Moment) : Option ItemId :=
  if moment.before.list.isNone then
    none
  else
    match moment.event with
    | .itemToggled id _ => some id
    | .noteLongClicked noteId =>
      if moment.before.reverseNoteClick then none else some noteId.item
    | .noteClicked noteId =>
      if moment.before.reverseNoteClick ∨ 0 < moment.before.selectionCount then
        some noteId.item
      else
        none
    | _ => none

/-- The event toggles the entry. -/
def toggles (moment : Moment) (id : ItemId) : Bool := moment.toggled? = some id

/-- The selection that an event leaves, as far as it can be told from the event: nothing, or what
was selected with one entry turned over, or what was selected. -/
def nextSelection (moment : Moment) : Selection :=
  if moment.clearsSelection then
    .empty
  else
    match moment.toggled? with
    | some id => moment.before.selection.toggle id
    | none => moment.before.selection

theorem nextSelection_effect (moment : Moment) :
    moment.effect.nextSelection moment.before.focus = moment.nextSelection := by
  obtain ⟨state, view, event⟩ := moment
  simp only [effect, nextSelection, clearsSelection, toggled?]
  cases event with
  | hostDestroyed | panesCleared => rfl
  | itemToggled id descriptor =>
    simp only [Coordinator.effect, Coordinator.nextSelection_toggle]
    cases state.list <;> rfl
  | noteClicked noteId =>
    simp only [Coordinator.effect]
    split
    · rw [Coordinator.nextSelection_toggle]
      cases state.list <;> rfl
    · rw [Coordinator.nextSelection_opening]
      cases state.list <;> rfl
  | noteLongClicked noteId =>
    simp only [Coordinator.effect]
    split
    · rw [Coordinator.nextSelection_opening]
      cases state.list <;> rfl
    · rw [Coordinator.nextSelection_toggle]
      cases state.list <;> rfl
  | paneAnnounced pane title subtitle =>
    simp only [Coordinator.effect, Router.isNews_eq, ite_self]
    split <;> rfl
  | drawerItemClicked item =>
    simp only [Coordinator.effect]
    cases item.isBook <;> cases state.surfaces.isActive <;> cases state.list <;> rfl
  | selectionCleared =>
    simp only [Coordinator.effect]
    cases listed : state.list with
    | none => exact Focus.selection_of_none listed
    | some list => rfl
  | actionSurfaceClosed surface =>
    simp only [Coordinator.effect, ite_self, decide_eq_true_eq]
    rfl
  | shelfResponse response =>
    cases response with
    | bookDeleted bookId =>
      simp only [Coordinator.effect, ite_self, decide_eq_true_eq]
      split <;> rfl
    | _ => cases state.list <;> rfl
  | _ => cases state.list <;> rfl

/-- Nothing but clears and toggles changes the selection. -/
theorem selection_after {moment : Moment} (consistent : moment.before.focus.Consistent) :
    moment.after.selection = moment.nextSelection := by
  rw [Coordinator.selection, moment.focus_after, Effect.selection_apply consistent,
    nextSelection_effect]

theorem contains_nextSelection {moment : Moment} (consistent : moment.before.focus.Consistent)
    (id : ItemId) :
    moment.nextSelection.contains id =
      if moment.clearsSelection then false
      else (moment.before.selection.contains id ^^ moment.toggles id) := by
  unfold nextSelection toggles
  split
  · rfl
  · cases moment.toggled? with
    | none => simp
    | some other =>
      have toggled := Selection.contains_toggle consistent.nodup_selection other id
      simp only [Coordinator.selection, toggled, Option.some.injEq]
      by_cases own : id = other
      · simp [own]
      · simp [own, Ne.symm own]

end Moment

namespace Coordinator

/-- The part of a history since the selection was dropped last. -/
def sinceClear (moments : List Moment) : List Moment :=
  moments.rtakeWhile fun moment => !moment.clearsSelection

theorem countP_sinceClear_snoc (moments : List Moment) (newest : Moment) (id : ItemId) :
    (sinceClear (moments ++ [newest])).countP (·.toggles id) =
      if newest.clearsSelection then 0
      else (sinceClear moments).countP (·.toggles id) + (newest.toggles id).toNat := by
  unfold sinceClear
  by_cases clears : newest.clearsSelection = true
  · simp [clears]
  · rw [List.rtakeWhile_concat_pos _ _ _ (by simpa using clears), List.countP_append]
    cases toggles : newest.toggles id <;> simp [clears, toggles]

theorem odd_add_toNat (count : Nat) (more : Bool) :
    Odd (count + more.toNat) ↔ (decide (Odd count) ^^ more) = true := by
  cases more <;> simp [Nat.odd_add_one]

/-- An entry is selected exactly if it was toggled an odd number of times since the selection was
dropped last. -/
theorem contains_selection_run (settings : Settings) (stimuli : List Stimulus) (id : ItemId) :
    ((initial settings).run stimuli).selection.contains id =
      decide (Odd ((sinceClear ((initial settings).history stimuli)).countP (·.toggles id))) := by
  induction stimuli using List.reverseRecOn with
  | nil => rfl
  | append_singleton stimuli stimulus ih =>
    let moment := ((initial settings).run stimuli).meet stimulus
    have consistent : moment.before.focus.Consistent := consistent_run settings stimuli
    have before_eq : moment.before.selection.contains id =
        decide (Odd ((sinceClear ((initial settings).history stimuli)).countP (·.toggles id))) := ih
    rw [run_snoc, history_snoc, countP_sinceClear_snoc, Moment.selection_after consistent,
      Moment.contains_nextSelection consistent, before_eq]
    by_cases clears : moment.clearsSelection = true
    · rw [if_pos clears, if_pos clears]
      rfl
    · rw [if_neg clears, if_neg clears, Bool.eq_iff_iff, decide_eq_true_iff, odd_add_toNat]

theorem list_isSome_of_contains {state : Coordinator} {id : ItemId}
    (selected : state.selection.contains id = true) : state.list.isSome = true := by
  cases listed : state.list with
  | none =>
    have unselected : state.selection = .empty := Focus.selection_of_none listed
    rw [unselected] at selected
    cases selected
  | some list => rfl

/-- An entry is selected exactly if a list pane is visible and the entry was toggled an odd number
of times since the selection was dropped last. Whatever the next event is, it drops the selection,
toggles an entry or leaves the selection as it is. -/
theorem selection_toggle_parity (settings : Settings) (stimuli : List Stimulus) :
    let state := (initial settings).run stimuli
    let recent := sinceClear ((initial settings).history stimuli)
    (∀ id, state.selection.contains id = true ↔
      state.list.isSome = true ∧ Odd (recent.countP (·.toggles id))) ∧
    ∀ next : Stimulus, (state.meet next).after.selection = (state.meet next).nextSelection := by
  intro state recent
  constructor
  · intro id
    have parity : state.selection.contains id = true ↔ Odd (recent.countP (·.toggles id)) := by
      rw [contains_selection_run settings stimuli id, decide_eq_true_iff]
    constructor
    · intro selected
      exact ⟨list_isSome_of_contains selected, parity.mp selected⟩
    · rintro ⟨-, odd⟩
      exact parity.mpr odd
  · intro next
    exact Moment.selection_after (consistent_run settings stimuli)

end Coordinator

end Panes
