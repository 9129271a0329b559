import Panes.Proofs.Frame.Mirror
import Panes.Session
import Mathlib.Data.List.Induction

/-!
# Titles that wait

A title that is announced while the drawer is open waits until the drawer closes. The closing edge
shows it, but a press of the back button makes no edge: if no sample has counted since the program
opened the drawer, none is outstanding either, and the title waits on under the closed drawer. There
is no other way to get there.
-/

namespace Panes

open Drawer (Edge)

namespace Moment

/-- The drawer makes an edge, or a pane announces its title. -/
def Retitles (moment : Moment) : Prop :=
  moment.edge?.isSome = true ∨ moment.announced?.isSome = true

/-- A title other than the visible one is announced while the drawer is open. -/
def Defers (moment : Moment) : Prop :=
  ∃ text, moment.announced? = some text ∧ moment.before.drawer.isOpen = true ∧
    text ≠ moment.before.titleBar.visible

/-- The back button closes the drawer. -/
def Dismisses (moment : Moment) : Prop :=
  moment.event = .backPressed ∧ moment.before.drawer.isOpen = true

variable {moment : Moment}

theorem announced_of_edge {edge : Edge} (made : moment.edge? = some edge) :
    moment.announced? = none := by
  obtain ⟨state, view, event⟩ := moment
  cases event with
  | drawerSlide offset => rfl
  | _ => cases made

/-- Without an edge only the back button closes the drawer. -/
theorem isOpen_before (silent : moment.edge? = none)
    (closed : moment.after.drawer.isOpen = false) :
    moment.before.drawer.isOpen = false ∨ moment.Dismisses := by
  have drawer_eq : moment.after.drawer = (moment.before.frame.next moment.event).1.drawer :=
    congrArg Frame.drawer moment.frame_after
  obtain ⟨state, view, event⟩ := moment
  rw [drawer_eq] at closed
  cases event with
  | drawerSlide offset =>
    have slide_eq := state.frame.slide_of_no_edge silent
    rw [Frame.next, slide_eq] at closed
    exact .inl closed
  | resumed firstRun =>
    cases firstRun with
    | false => exact .inl closed
    | true => cases closed
  | backPressed =>
    rcases Bool.eq_false_or_eq_true state.drawer.isOpen with isOpen | shut
    · exact .inr ⟨rfl, isOpen⟩
    · exact .inl shut
  | paneAnnounced pane title subtitle => exact .inl closed
  | _ => exact .inl closed

/-- How a title comes to wait, and what ends it, while no closing edge is outstanding. -/
theorem waits_after (settled : moment.after.drawer.phase ≠ .opened) :
    moment.after.titleBar.visible ≠ moment.after.titleBar.saved ↔
      moment.Defers ∨
        ¬ moment.Retitles ∧ moment.before.titleBar.visible ≠ moment.before.titleBar.saved := by
  rw [moment.phase_after] at settled
  rw [moment.visible_after, moment.saved_after]
  cases made : moment.edge? with
  | some edge =>
    have unannounced := announced_of_edge made
    have retitles : moment.Retitles := .inl (by rw [made]; rfl)
    have undeferred : ¬ moment.Defers := by
      rintro ⟨text, announced, -⟩
      rw [unannounced] at announced
      cases announced
    cases edge with
    | opened =>
      rw [made] at settled
      exact absurd rfl settled
    | closed =>
      have title_eq : moment.title? = some moment.before.titleBar.saved :=
        moment.before.frame.title_of_edge made
      simp [title_eq, unannounced, retitles, undeferred]
  | none =>
    have title_eq : moment.title? =
        if moment.before.drawer.isOpen then none else moment.announced? :=
      moment.before.frame.title_of_no_edge made
    have retitles_iff : moment.Retitles ↔ moment.announced?.isSome = true := by
      simp [Retitles, made]
    rw [title_eq, retitles_iff, Defers]
    cases moment.announced? with
    | none => simp
    | some text => cases moment.before.drawer.isOpen <;> simp [eq_comm]

end Moment

namespace Coordinator

/-- A title waits exactly if it was announced while the drawer was open and neither an edge nor an
announcement came since. -/
theorem waits_run_iff (settings : Settings) (stimuli : List Stimulus)
    (settled : ((initial settings).run stimuli).drawer.phase ≠ .opened) :
    ((initial settings).run stimuli).titleBar.visible ≠
        ((initial settings).run stimuli).titleBar.saved ↔
      Since Moment.Defers Moment.Retitles ((initial settings).history stimuli) := by
  induction stimuli using List.reverseRecOn with
  | nil => exact iff_of_false (fun waits => waits rfl) (not_since_nil _ _)
  | append_singleton stimuli stimulus ih =>
    rw [run_snoc] at settled ⊢
    rw [history_snoc, since_snoc, Moment.waits_after settled]
    refine or_congr_right (and_congr_right fun standing => ih ?_)
    -- No edge was made, so no closing edge was outstanding before either.
    have silent : (((initial settings).run stimuli).meet stimulus).edge? = none := by
      rw [← Option.not_isSome_iff_eq_none]
      exact fun made => standing (.inl made)
    rw [Moment.phase_after, silent] at settled
    exact settled

/-- If the drawer is closed over a title that was announced while it was open, and no edge was made
since, then it was closed by the back button. -/
theorem dismissed_since (settings : Settings) (stimuli : List Stimulus)
    (deferred : Since Moment.Defers Moment.Retitles ((initial settings).history stimuli))
    (closed : ((initial settings).run stimuli).drawer.isOpen = false) :
    Since Moment.Dismisses Moment.Retitles ((initial settings).history stimuli) := by
  induction stimuli using List.reverseRecOn with
  | nil => exact absurd deferred (not_since_nil _ _)
  | append_singleton stimuli stimulus ih =>
    rw [run_snoc] at closed
    rw [history_snoc, since_snoc] at deferred ⊢
    have silent : (((initial settings).run stimuli).meet stimulus).edge? = none := by
      rw [← Option.not_isSome_iff_eq_none, Option.isSome_iff_exists]
      rintro ⟨edge, made⟩
      have unannounced := Moment.announced_of_edge made
      rcases deferred with ⟨text, announced, -⟩ | ⟨standing, -⟩
      · rw [unannounced] at announced
        cases announced
      · exact standing (.inl (by rw [made]; rfl))
    rcases Moment.isOpen_before silent closed with closed_before | dismisses
    · rcases deferred with ⟨text, -, isOpen, -⟩ | ⟨standing, deferred⟩
      · exact absurd (closed_before.symm.trans isOpen) Bool.false_ne_true
      · exact .inr ⟨standing, ih deferred closed_before⟩
    · exact .inl dismisses

/-- Under a closed drawer with no closing edge outstanding the bar shows the title announced last,
unless that title was announced while the drawer was open, was not visible then, and the back button
closed the drawer before an edge or an announcement came. -/
theorem shows_saved_iff (settings : Settings) (stimuli : List Stimulus) :
    let state := (initial settings).run stimuli
    let moments := (initial settings).history stimuli
    state.drawer.isOpen = false → state.drawer.phase ≠ .opened →
      (state.titleBar.visible = state.titleBar.saved ↔
        ¬ (Since Moment.Defers Moment.Retitles moments ∧
          Since Moment.Dismisses Moment.Retitles moments)) := by
  intro state moments closed settled
  have waits_iff := waits_run_iff settings stimuli settled
  have implied : Since Moment.Defers Moment.Retitles moments ∧
        Since Moment.Dismisses Moment.Retitles moments ↔
      Since Moment.Defers Moment.Retitles moments :=
    and_iff_left_of_imp fun deferred => dismissed_since settings stimuli deferred closed
  rw [implied, ← waits_iff, not_not]

/-- The back button closes a drawer that the program opened, and the title announced meanwhile is
left waiting. -/
theorem waits_after_press :
    let view : HostView := Host.initial.view .still
    let stimuli : List Stimulus :=
      [⟨view, .drawerSlide ⟨0⟩⟩, ⟨view, .resumed true⟩,
        ⟨view, .paneAnnounced (.book ⟨7⟩ none) (some "Work") none⟩, ⟨view, .backPressed⟩]
    let state := (initial .standard).run stimuli
    let moments := (initial .standard).history stimuli
    state.drawer.isOpen = false ∧ state.drawer.phase ≠ .opened ∧
      Since Moment.Defers Moment.Retitles moments ∧
        Since Moment.Dismisses Moment.Retitles moments := by
  intro view stimuli state moments
  have closed : state.drawer.isOpen = false := by decide
  have settled : state.drawer.phase ≠ .opened := by decide
  have waits : state.titleBar.visible ≠ state.titleBar.saved := by decide
  refine ⟨closed, settled, ?_⟩
  exact not_not.mp (mt (shows_saved_iff .standard stimuli closed settled).mpr waits)

/-- A title announced under the drawer does not always show when the drawer is closed. -/
theorem title_left_waiting :
    ¬ ∀ (settings : Settings) (stimuli : List Stimulus),
      let state := (initial settings).run stimuli
      state.drawer.isOpen = false → state.drawer.phase ≠ .opened →
        state.titleBar.visible = state.titleBar.saved := by
  intro always
  let view : HostView := Host.initial.view .still
  let stimuli : List Stimulus :=
    [⟨view, .drawerSlide ⟨0⟩⟩, ⟨view, .resumed true⟩,
      ⟨view, .paneAnnounced (.book ⟨7⟩ none) (some "Work") none⟩, ⟨view, .backPressed⟩]
  have shown := always .standard stimuli (by decide) (by decide)
  revert shown
  decide

end Coordinator

end Panes
