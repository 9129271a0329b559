import Panes.Proofs.Presentation
import Panes.Proofs.Router
import Panes.Proofs.Selection.Surface

/-!
# The number of selected entries on the host

The host learns the kind of the pane and the number of selected entries when a pane is announced and
whenever the selection changes. So as long as a list pane is visible, the last report it got is
right.
-/

namespace Panes

/-- The kind and the number that an action reports. -/
def Action.report? : Action → Option (Pane.Kind × Nat)
  | applyPaneChrome kind count => some (kind, count)
  | _ => none

/-- What is to be reported of a list pane. -/
def ListPane.report (list : ListPane) : Pane.Kind × Nat := (list.pane.kind, list.selection.count)

/-! ## One event -/

namespace Effect

/-- An effect that leaves a list pane reports it, or it leaves it as it was, or the pane is new. -/
theorem chrome_apply {focus : Focus} {effect : Effect} {list : ListPane}
    (listed : (effect.apply focus).1.list = some list) :
    effect.chrome? focus = some list.chrome ∨
      (effect.chrome? focus = none ∧ focus.list = some list) ∨
        ∃ pane, effect = .replace (some pane) := by
  cases effect with
  | keep => exact .inr (.inl ⟨rfl, listed⟩)
  | toggle id descriptor =>
    cases before : focus.list with
    | none =>
      simp only [apply, before] at listed
      cases listed
    | some older =>
      left
      cases offered : descriptor.or older.defaultDescriptor? <;>
        · simp only [apply, before, offered, Option.some.injEq] at listed
          rw [chrome?, before, ← listed]
          rfl
  | finish => exact .inr (.inl ⟨rfl, listed⟩)
  | clear =>
    obtain ⟨older, before, rfl⟩ := Option.map_eq_some_iff.mp listed
    left
    rw [chrome?, before]
    rfl
  | replace pane =>
    obtain ⟨newcomer, rfl, -⟩ := Option.bind_eq_some_iff.mp listed
    exact .inr (.inr ⟨newcomer, rfl⟩)
  | close surface =>
    simp only [apply, chrome?] at listed ⊢
    split at listed
    · obtain ⟨older, before, rfl⟩ := Option.map_eq_some_iff.mp listed
      left
      rw [if_pos ‹_›, before]
      rfl
    · rw [if_neg ‹_›]
      exact .inr (.inl ⟨rfl, listed⟩)
  | tearDown => cases listed

end Effect

namespace Coordinator

/-- Only an announcement brings a new pane. -/
theorem announced_of_replace {view : HostView} {state : Coordinator} {event : Event} {pane : Pane}
    (replaced : state.effect view event = .replace (some pane)) :
    ∃ title subtitle, event = .paneAnnounced pane title subtitle := by
  have unopened (noteId : NoteId) : opening view noteId ≠ .replace (some pane) := by
    rw [opening]
    cases view.note noteId <;> simp
  revert replaced
  fun_cases effect view state event <;> simp_all

/-- The pane that is announced without being news is the list pane, if one is visible. -/
theorem kind_of_not_news {state : Coordinator} (located : state.Located) {pane : Pane}
    (known : state.router.isNews pane = false) {list : ListPane}
    (listed : state.list = some list) : list.pane.kind = pane.kind := by
  rw [Located, listed] at located
  obtain ⟨current, current_eq, identity_eq⟩ := Option.map_eq_some_iff.mp located.symm
  obtain ⟨remembered, -⟩ := Option.filter_eq_some_iff.mp current_eq
  rw [Router.isNews, remembered, Bool.not_eq_false', Pane.sameIdentity_iff] at known
  exact Pane.kind_congr (identity_eq.symm.trans known)

theorem eq_fresh_of_listFor {pane : Pane} {list : ListPane} (listed : listFor pane = some list) :
    list = .fresh pane := by
  rw [listFor] at listed
  split at listed
  · exact (Option.some.inj listed).symm
  · cases listed

/-- An announcement reports the list pane that it leaves. -/
theorem chrome_announced {state : Coordinator} (located : state.Located) {view : HostView}
    {pane : Pane} {title subtitle : Option String} {list : ListPane}
    (listed : ((state.effect view (.paneAnnounced pane title subtitle)).apply state.focus).1.list =
      some list) :
    state.chrome? view (.paneAnnounced pane title subtitle) = some list.chrome := by
  rw [effect] at listed
  rw [chrome?]
  cases news : state.router.isNews pane with
  | true =>
    rw [news] at listed
    obtain rfl := eq_fresh_of_listFor listed
    rfl
  | false =>
    rw [news] at listed
    have listed_before : state.list = some list := listed
    have count_eq : state.selectionCount = list.selection.count :=
      selectionCount_of_some listed_before
    rw [ListPane.chrome, kind_of_not_news located news listed_before, ← count_eq]
    rfl

end Coordinator

namespace Moment

/-- What is reported at a moment. -/
def report? (moment : Moment) : Option (Pane.Kind × Nat) :=
  (moment.before.chrome? moment.view moment.event).bind Action.report?

theorem reports_eq (moment : Moment) :
    moment.outcome.actions.filterMap Action.report? = moment.report?.toList := by
  have commands (command : Option Surface.Command) :
      (command.map Action.surface).toList.filterMap Action.report? = [] := by
    cases command <;> rfl
  have shown (action : Action) (reports : action.report?.isSome = true) :
      action.kind ∈ Focus.kinds := by
    cases action with
    | applyPaneChrome kind count => simp [Focus.kinds]
    | _ => cases reports
  have told_eq : moment.outcome.actions.filter (·.kind ∈ Focus.kinds) =
      moment.before.told moment.view moment.event :=
    moment.before.told_handle moment.view moment.event
  rw [← Action.filterMap_filter_kind shown, told_eq, Coordinator.told, List.filterMap_append,
    commands, report?]
  cases moment.before.chrome? moment.view moment.event with
  | none => rfl
  | some action => cases action <;> rfl

/-- After an event the visible list pane was reported just now, or it is as it was before and
nothing was reported. -/
theorem report_after {moment : Moment} (located : moment.before.Located) {list : ListPane}
    (listed : moment.after.list = some list) :
    moment.report? = some list.report ∨
      moment.report? = none ∧ moment.before.list = some list := by
  have applied : (moment.effect.apply moment.before.focus).1.list = some list := by
    rw [← moment.focus_after]
    exact listed
  -- An announcement reports by itself, every other event through its effect.
  by_cases announced : ∃ pane title subtitle, moment.event = .paneAnnounced pane title subtitle
  · obtain ⟨pane, title, subtitle, event_eq⟩ := announced
    left
    rw [effect, event_eq] at applied
    rw [report?, event_eq, Coordinator.chrome_announced located applied]
    rfl
  · have chrome_eq : moment.before.chrome? moment.view moment.event =
        moment.effect.chrome? moment.before.focus :=
      moment.before.chrome_of_unannounced moment.view announced
    rcases Effect.chrome_apply applied with reported | ⟨silent, kept⟩ | ⟨pane, replaced⟩
    · left
      rw [report?, chrome_eq, reported]
      rfl
    · right
      refine ⟨?_, kept⟩
      rw [report?, chrome_eq, silent]
      rfl
    · obtain ⟨title, subtitle, event_eq⟩ := Coordinator.announced_of_replace replaced
      exact absurd ⟨pane, title, subtitle, event_eq⟩ announced

end Moment

/-! ## A run -/

namespace Coordinator

theorem reported_run (settings : Settings) (stimuli : List Stimulus) {list : ListPane}
    (listed : ((initial settings).run stimuli).list = some list) :
    (((initial settings).history stimuli).filterMap Moment.report?).getLast? =
      some list.report := by
  induction stimuli using List.reverseRecOn with
  | nil => cases listed
  | append_singleton stimuli stimulus ih =>
    rw [run_snoc] at listed
    rw [history_snoc, List.filterMap_append, List.getLast?_append]
    have located := located_run settings stimuli
    rcases Moment.report_after located listed with reported | ⟨silent, kept⟩
    · simp [reported]
    · simp [silent, ih kept]

/-- While a list pane is visible, the last report that the host got is of its kind and of the number
of selected entries, each counted once. -/
theorem host_knows_selected (settings : Settings) (stimuli : List Stimulus) (list : ListPane)
    (listed : ((initial settings).run stimuli).list = some list) :
    ((emitted ((initial settings).history stimuli)).filterMap Action.report?).getLast? =
        some (list.pane.kind, list.selection.ids.length) ∧
      list.selection.ids.Nodup := by
  constructor
  · rw [filterMap_emitted Moment.reports_eq]
    exact reported_run settings stimuli listed
  · exact (consistent_run settings stimuli).distinct list listed

/-- Two notes are selected in a book, the book scrolls, and one of them is clicked again: the host
last heard of the other. -/
theorem host_knows_remaining :
    let view : HostView := Host.initial.view .still
    let stimuli : List Stimulus :=
      [⟨view, .paneAnnounced (.book ⟨7⟩ none) none none⟩, ⟨view, .itemToggled ⟨42⟩ none⟩,
        ⟨view, .itemToggled ⟨43⟩ none⟩, ⟨view, .paneAnnounced (.book ⟨7⟩ (some ⟨42⟩)) none none⟩,
        ⟨view, .noteClicked ⟨42⟩⟩]
    let list : ListPane := ⟨.book ⟨7⟩ none, ⟨[⟨43⟩]⟩⟩
    ((initial .standard).run stimuli).list = some list ∧
      ((emitted ((initial .standard).history stimuli)).filterMap Action.report?).getLast? =
        some (.book, 1) := by
  intro view stimuli list
  have listed : ((initial .standard).run stimuli).list = some list := by decide
  exact ⟨listed, (host_knows_selected .standard stimuli list listed).1⟩

end Coordinator

end Panes
