import Panes.Proofs.Effect
import Panes.Proofs.Emission

/-!
# What the host is told of the selection

The host shows a surface for the selection, and beside it the kind of the pane and the number of
selected entries. An event leads to at most one command for the surface and, after it, at most one
report of kind and number. `Coordinator.told` says which, and `told_handle` that nothing else is
said about the selection.
-/

namespace Panes

/-- The kinds of actions by which the host follows the selection. -/
def Focus.kinds : List Action.Kind := [.surface, .applyPaneChrome]

/-- The report of kind and number that goes with an effect. -/
def Effect.chrome? (focus : Focus) : Effect → Option Action
  | toggle id _ => focus.list.map fun list => (list.toggle id).chrome
  | clear => focus.list.map fun list => list.clear.chrome
  | close surface =>
    if (focus.surfaces.closed surface).2.any (·.hostInitiated) then
      focus.list.map fun list => list.clear.chrome
    else
      none
  | _ => none

/-- A report is no command for the surface. -/
theorem Effect.surfaceCommand_chrome (focus : Focus) (effect : Effect) :
    (effect.chrome? focus).toList.filterMap Action.surfaceCommand? = [] := by
  have reports (next : ListPane → ListPane) :
      (focus.list.map fun list => (next list).chrome).toList.filterMap Action.surfaceCommand? =
        [] := by
    cases focus.list <;> rfl
  cases effect with
  | toggle id descriptor => exact reports fun list => list.toggle id
  | clear => exact reports ListPane.clear
  | close surface =>
    rw [chrome?]
    split
    · exact reports ListPane.clear
    · rfl
  | _ => rfl

namespace Coordinator

/-- The report of kind and number that an event leads to. -/
def chrome? (view : HostView) (state : Coordinator) : Event → Option Action
  | .paneAnnounced pane _ _ =>
    some (.applyPaneChrome pane.kind (if state.router.isNews pane then 0 else state.selectionCount))
  | event => (state.effect view event).chrome? state.focus

/-- What an event tells the host about the selection. -/
def told (view : HostView) (state : Coordinator) (event : Event) : List Action :=
  (((state.effect view event).apply state.focus).2.map Action.surface).toList ++
    (state.chrome? view event).toList

theorem nothing_told : ([] : List Action).filter (·.kind ∈ Focus.kinds) = [] := rfl

theorem filter_command (command : Option Surface.Command) :
    (command.map Action.surface).toList.filter (·.kind ∈ Focus.kinds) =
      (command.map Action.surface).toList := by
  cases command <;> rfl

section

variable (view : HostView) (state : Coordinator)

/-- The surface is finished, and what else is done does not concern the selection. -/
theorem filter_finish {actions : List Action}
    (apart : actions.filter (·.kind ∈ Focus.kinds) = []) :
    (state.finishSurface.2 ++ actions).filter (·.kind ∈ Focus.kinds) =
      (state.surfaces.finish.2.map Action.surface).toList := by
  rw [List.filter_append, apart, List.append_nil]
  exact filter_command state.surfaces.finish.2

theorem filter_clearSelection :
    state.clearSelection.2.filter (·.kind ∈ Focus.kinds) =
      (state.list.map fun list => list.clear.chrome).toList := by
  rw [clearSelection]
  cases state.list <;> rfl

/-- The surface is finished, and the selection is dropped. -/
theorem filter_finish_clear {actions : List Action}
    (apart : actions.filter (·.kind ∈ Focus.kinds) = []) :
    (state.finishSurface.2 ++ (state.finishSurface.1.clearSelection.2 ++ actions)).filter
        (·.kind ∈ Focus.kinds) =
      (state.surfaces.finish.2.map Action.surface).toList ++
        (state.list.map fun list => list.clear.chrome).toList := by
  rw [List.filter_append, List.filter_append, apart, List.append_nil, filter_clearSelection]
  exact congrArg (· ++ _) (filter_command state.surfaces.finish.2)

/-- What an effect tells the host. -/
def toldOf (effect : Effect) : List Action :=
  ((effect.apply state.focus).2.map Action.surface).toList ++
    (effect.chrome? state.focus).toList

theorem told_openNote (noteId : NoteId) :
    (state.openNote view noteId).actions.filter (·.kind ∈ Focus.kinds) =
      state.toldOf (opening view noteId) := by
  rw [openNote, opening]
  cases view.note noteId with
  | none => rfl
  | some note =>
    rw [state.filter_finish rfl]
    exact (List.append_nil _).symm

theorem told_toggle (id : ItemId) (descriptor : Option Surface.Descriptor) :
    (state.toggle id descriptor).actions.filter (·.kind ∈ Focus.kinds) =
      state.toldOf (.toggle id descriptor) := by
  rw [toggle]
  cases listed : state.list with
  | none => simp [toldOf, Effect.apply, Effect.chrome?, focus, listed, ignore]
  | some list =>
    have default_eq : (list.toggle id).defaultDescriptor? = list.defaultDescriptor? := rfl
    have reported : [(list.toggle id).chrome].filter (·.kind ∈ Focus.kinds) =
        [(list.toggle id).chrome] := rfl
    simp only [toldOf, Effect.apply, Effect.chrome?, focus, listed, default_eq]
    rw [List.filter_append, filter_command, reported]
    cases descriptor.or list.defaultDescriptor? <;> rfl

theorem told_drawerItemClicked (item : Drawer.Item) :
    (state.drawerItemClicked item).actions.filter (·.kind ∈ Focus.kinds) =
      state.toldOf (state.effect view (.drawerItemClicked item)) := by
  rw [drawerItemClicked, effect]
  split
  · rfl
  · simp only [List.append_assoc]
    exact state.filter_finish_clear rfl

theorem told_selectionCleared :
    state.selectionCleared.actions.filter (·.kind ∈ Focus.kinds) =
      state.toldOf (state.effect view .selectionCleared) := by
  rw [selectionCleared, effect]
  cases listed : state.list with
  | none => rfl
  | some list =>
    have told_eq := state.filter_finish_clear nothing_told
    rw [List.append_nil] at told_eq
    exact told_eq

theorem told_surfaceClosed (surface : Surface.Id) :
    (state.surfaceClosed view surface).actions.filter (·.kind ∈ Focus.kinds) =
      state.toldOf (.close surface) := by
  have posted (decision : Prop) [Decidable decision] :
      (if decision then [post view .syncOnNoteUpdate] else []).filter (·.kind ∈ Focus.kinds) =
        [] := by
    split <;> rfl
  rw [surfaceClosed]
  cases reported : state.surfaces.closed surface with
  | mk surfaces closed =>
    cases closed with
    | none => simp [toldOf, Effect.apply, Effect.chrome?, focus, reported, ignore]
    | some closed =>
      simp only [toldOf, Effect.apply, Effect.chrome?, focus, reported, Option.any_some,
        List.filter_append, posted, List.nil_append]
      cases closed.hostInitiated with
      | false => rfl
      | true => exact filter_clearSelection _

/-- In a pane that is news nothing is selected. -/
theorem selectionCount_of_news {next : Coordinator} {pane : Pane}
    (list_eq : next.list = listFor pane) : next.selectionCount = 0 := by
  rw [selectionCount, list_eq, listFor]
  cases pane.kind.isList <;> rfl

theorem told_paneAnnounced (pane : Pane) (title subtitle : Option String) :
    (state.paneAnnounced pane title subtitle).actions.filter (·.kind ∈ Focus.kinds) =
      state.told view (.paneAnnounced pane title subtitle) := by
  have reported (text : Option TitleBar.Text) (count : Nat) :
      ((text.map Action.setTitle).toList ++ [Action.applyPaneChrome pane.kind count]).filter
        (·.kind ∈ Focus.kinds) = [.applyPaneChrome pane.kind count] := by
    cases text <;> rfl
  rw [paneAnnounced, told, chrome?, effect]
  cases state.router.isNews pane with
  | false => exact reported _ _
  | true =>
    simp only [if_true, List.append_assoc]
    rw [List.filter_append, reported, selectionCount_of_news rfl]
    exact congrArg (· ++ _) (filter_command state.surfaces.finish.2)

theorem told_shelfResponse (response : Shelf.Response) :
    (state.shelfResponse response).actions.filter (·.kind ∈ Focus.kinds) =
      state.toldOf (state.effect view (.shelfResponse response)) := by
  have notified : ((response.notification?.map Action.notify).toList).filter
      (·.kind ∈ Focus.kinds) = [] := by
    cases response.notification? <;> rfl
  cases response with
  | bookDeleted bookId =>
    rw [shelfResponse, effect]
    split
    -- The notification comes first, then the command for the surface of the book that is gone.
    · simp only [List.append_assoc]
      rw [List.filter_append, notified, List.nil_append, state.filter_finish rfl]
      exact (List.append_nil _).symm
    · exact notified
  | _ => exact notified

/-- Every event tells the host about the selection what `Coordinator.told` says, and no more. -/
theorem told_handle (event : Event) :
    (state.handle view event).actions.filter (·.kind ∈ Focus.kinds) = state.told view event := by
  cases event with
  | drawerItemClicked item => exact state.told_drawerItemClicked view item
  | paneAnnounced pane title subtitle => exact state.told_paneAnnounced view pane title subtitle
  | panesCleared =>
    have told_eq := state.filter_finish nothing_told
    rw [List.append_nil] at told_eq
    exact told_eq.trans (List.append_nil _).symm
  | noteClicked noteId =>
    have told_eq : state.told view (.noteClicked noteId) =
        state.toldOf (state.effect view (.noteClicked noteId)) := rfl
    rw [told_eq, handle, effect]
    split
    · exact state.told_toggle _ _
    · exact state.told_openNote view noteId
  | noteLongClicked noteId =>
    have told_eq : state.told view (.noteLongClicked noteId) =
        state.toldOf (state.effect view (.noteLongClicked noteId)) := rfl
    rw [told_eq, handle, effect]
    split
    · exact state.told_openNote view noteId
    · exact state.told_toggle _ _
  | itemToggled itemId descriptor => exact state.told_toggle itemId descriptor
  | selectionCleared => exact state.told_selectionCleared view
  | actionSurfaceClosed surface => exact state.told_surfaceClosed view surface
  | shelfResponse response => exact state.told_shelfResponse view response
  | _ => exact Action.filter_kind_of_within (handle_within _ _ _) (by simp [Focus.kinds])

/-- Only an announcement reports by itself. -/
theorem chrome_of_unannounced {event : Event}
    (unannounced : ¬ ∃ pane title subtitle, event = .paneAnnounced pane title subtitle) :
    state.chrome? view event = (state.effect view event).chrome? state.focus := by
  rw [chrome?]
  intro pane title subtitle event_eq
  exact unannounced ⟨pane, title, subtitle, event_eq⟩

theorem surfaceCommand_chrome (event : Event) :
    (state.chrome? view event).toList.filterMap Action.surfaceCommand? = [] := by
  by_cases announced : ∃ pane title subtitle, event = .paneAnnounced pane title subtitle
  · obtain ⟨pane, title, subtitle, rfl⟩ := announced
    rfl
  · rw [state.chrome_of_unannounced view announced]
    exact Effect.surfaceCommand_chrome _ _

/-- The host gets the command of the effect and no other. -/
theorem commands_handle (event : Event) :
    (state.handle view event).surfaceCommands =
      ((state.effect view event).apply state.focus).2.toList := by
  have known (action : Action) (commands : action.surfaceCommand?.isSome = true) :
      action.kind ∈ Focus.kinds := by
    cases action with
    | surface command => simp [Focus.kinds]
    | _ => cases commands
  rw [Outcome.surfaceCommands, ← Action.filterMap_filter_kind known, told_handle, told,
    List.filterMap_append, surfaceCommand_chrome, List.append_nil]
  cases ((state.effect view event).apply state.focus).2 <;> rfl

end

end Coordinator

namespace Moment

theorem surfaceCommands_eq (moment : Moment) :
    moment.outcome.surfaceCommands = moment.command?.toList :=
  moment.before.commands_handle moment.view moment.event

theorem emits_iff {moment : Moment} {command : Surface.Command} :
    moment.Emits command ↔ moment.command? = some command := by
  have listed : moment.Emits command ↔ command ∈ moment.outcome.surfaceCommands := by
    simp only [Emits, Outcome.surfaceCommands, List.mem_filterMap]
    constructor
    · intro member
      exact ⟨_, member, rfl⟩
    · rintro ⟨action, member, said⟩
      cases action <;> cases said
      exact member
  rw [listed, surfaceCommands_eq, Option.mem_toList]

end Moment

end Panes
