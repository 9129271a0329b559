import Panes.Proofs.Background
import Panes.Proofs.Presentation

/-!
# The frame and the scene do not interfere

The frame is the drawer with the title bar, the scene is the visible pane with its selection and its
surfaces. Each depends on its own past only: take the events that cannot move it out of a run, and
it comes out the same, and so does what the host is told of it. The two share events, as an
announcement moves both, but they share no state.
-/

namespace Panes

/-- The visible pane with its selection and its surfaces, and all that decides about them. -/
structure Scene extends Focus where
  /-- A click selects and a long press opens. -/
  reverseNoteClick : Bool
  /-- The pane that announced itself last. -/
  router : Router
  /-- A structural command was asked for since a surface closed last. -/
  structuralMoveRequested : Bool
  deriving DecidableEq, Repr

/-- The scene in the state. -/
def Coordinator.scene (state : Coordinator) : Scene :=
  ⟨state.focus, state.reverseNoteClick, state.router, state.structuralMoveRequested⟩

/-- An event that can move the scene. -/
def Event.movesScene : Event → Bool
  | drawerSlide _ | backPressed | resumed _ | coldStart _ | navigate _ | broadcast _
  | broadcastPayload _ | searchOpened | searchSubmitted _ | noteScrollRequested _ | bookClicked _
  | scheduledTaskFired _ | fileChosen _ | importConfirmed _ _ => false
  | _ => true

/-! ## Parts that go their own way -/

/-- A part of the state that an outcome leaves, with its actions of some kinds. -/
def Outcome.restrict {α : Type} (part : Coordinator → α) (kinds : List Action.Kind)
    (outcome : Outcome) : α × List Action :=
  (part outcome.state, outcome.actions.filter (·.kind ∈ kinds))

/-- A part of the state goes its own way: only some events move it, and what they make of it, and
what they tell the host of it, depends on nothing else in the state. -/
structure Separate {α : Type} (part : Coordinator → α) (kinds : List Action.Kind)
    (moves : Event → Bool) : Prop where
  /-- No other event moves it. -/
  still : ∀ (view : HostView) (state : Coordinator) {event : Event}, moves event = false →
    (state.handle view event).restrict part kinds = (part state, [])
  /-- Nothing else matters. -/
  handle_congr : ∀ (view : HostView) (event : Event) {left right : Coordinator},
    part left = part right →
      (left.handle view event).restrict part kinds = (right.handle view event).restrict part kinds

namespace Coordinator

/-- What a run makes of a part of the state, with the actions of some kinds that came of it. -/
def restrictedRun {α : Type} (part : Coordinator → α) (kinds : List Action.Kind)
    (state : Coordinator) (stimuli : List Stimulus) : α × List Action :=
  (part (state.run stimuli), (emitted (state.history stimuli)).filter (·.kind ∈ kinds))

theorem restrictedRun_cons {α : Type} (part : Coordinator → α) (kinds : List Action.Kind)
    (state : Coordinator) (stimulus : Stimulus) (stimuli : List Stimulus) :
    state.restrictedRun part kinds (stimulus :: stimuli) =
      ((state.meet stimulus).after.restrictedRun part kinds stimuli).map id
        (((state.meet stimulus).outcome.restrict part kinds).2 ++ ·) := by
  rw [restrictedRun, history_cons, emitted_cons, List.filter_append]
  rfl

end Coordinator

/-- Events that cannot move the part may as well be left out of a run. -/
theorem Separate.run_filter {α : Type} {part : Coordinator → α} {kinds : List Action.Kind}
    {moves : Event → Bool} (separate : Separate part kinds moves) {left right : Coordinator}
    (same : part left = part right) (stimuli : List Stimulus) :
    left.restrictedRun part kinds stimuli =
      right.restrictedRun part kinds (stimuli.filter (moves ·.event)) := by
  -- The two runs differ outside the part from the first event left out on.
  induction stimuli generalizing left right with
  | nil => exact Prod.ext same rfl
  | cons stimulus stimuli ih =>
    rw [List.filter_cons, Coordinator.restrictedRun_cons]
    cases moved : moves stimulus.event with
    | false =>
      have still : (left.meet stimulus).outcome.restrict part kinds = (part left, []) :=
        separate.still stimulus.view left moved
      have kept : part (left.meet stimulus).after = part left := congrArg Prod.fst still
      rw [still, if_neg Bool.false_ne_true]
      exact ih (kept.trans same)
    | true =>
      have now_eq : (left.meet stimulus).outcome.restrict part kinds =
          (right.meet stimulus).outcome.restrict part kinds :=
        separate.handle_congr stimulus.view stimulus.event same
      have after_eq : part (left.meet stimulus).after = part (right.meet stimulus).after :=
        congrArg Prod.fst now_eq
      rw [if_pos rfl, Coordinator.restrictedRun_cons, now_eq, ih after_eq]

namespace Coordinator

/-! ## The frame -/

theorem restrict_frame (view : HostView) (state : Coordinator) (event : Event) :
    (state.handle view event).restrict frame Frame.kinds = state.frame.next event :=
  Prod.ext (state.frame_handle view event) (state.frame_actions_handle view event)

theorem separate_frame : Separate frame Frame.kinds Event.movesFrame where
  still view state event unmoved := by
    rw [restrict_frame, Frame.next_of_not_moves _ unmoved]
  handle_congr view event left right same := by
    rw [restrict_frame, restrict_frame, same]

/-! ## The scene -/

section

variable (view : HostView) (event : Event)

theorem restrict_scene (state : Coordinator) :
    (state.handle view event).restrict scene Focus.kinds =
      (⟨((state.effect view event).apply state.focus).1, state.reverseNoteClick,
        state.router.next event, (state.standing.next view event).structuralMoveRequested⟩,
        state.told view event) := by
  have focus_eq := state.applied_handle view event
  have reverse_eq := reverseNoteClick_handle view state event
  have router_eq := state.router_handle view event
  have wish_eq := congrArg Standing.structuralMoveRequested (state.standing_handle view event)
  rw [Outcome.restrict, told_handle, scene, focus_eq, reverse_eq, router_eq, ← wish_eq]
  rfl

variable {left right : Coordinator}

/-- The scene decides how an event takes effect. -/
theorem effect_congr (same : left.scene = right.scene) :
    left.effect view event = right.effect view event := by
  -- With the fields of the scene identified both sides come to the same.
  obtain ⟨_, _, _, _, _, _, _, _, _⟩ := left
  obtain ⟨_, _, _, _, _, _, _, _, _⟩ := right
  cases same
  cases event with
  | shelfResponse response => cases response <;> rfl
  | _ => rfl

/-- The scene decides what the host is told of the selection. -/
theorem told_congr (same : left.scene = right.scene) :
    left.told view event = right.told view event := by
  obtain ⟨_, _, _, _, _, _, _, _, _⟩ := left
  obtain ⟨_, _, _, _, _, _, _, _, _⟩ := right
  cases same
  cases event with
  | shelfResponse response => cases response <;> rfl
  | _ => rfl

theorem structuralMoveRequested_congr
    (same : left.structuralMoveRequested = right.structuralMoveRequested) :
    (left.standing.next view event).structuralMoveRequested =
      (right.standing.next view event).structuralMoveRequested := by
  cases event with
  | hostDestroyed | actionSurfaceClosed _ => rfl
  | shelfRequest command => exact congrArg (· || command.order.isStructural) same
  | _ => exact same

end

theorem separate_scene : Separate scene Focus.kinds Event.movesScene where
  still view state event unmoved := by
    rw [restrict_scene]
    cases event with
    | drawerSlide _ | backPressed | resumed _ | coldStart _ | navigate _ | broadcast _
    | broadcastPayload _ | searchOpened | searchSubmitted _ | noteScrollRequested _
    | bookClicked _ | scheduledTaskFired _ | fileChosen _ | importConfirmed _ _ => rfl
    | _ => cases unmoved
  handle_congr view event left right same := by
    have focus_eq : left.focus = right.focus := congrArg Scene.toFocus same
    have reverse_eq : left.reverseNoteClick = right.reverseNoteClick :=
      congrArg Scene.reverseNoteClick same
    have router_eq : left.router = right.router := congrArg Scene.router same
    have wish_eq : left.structuralMoveRequested = right.structuralMoveRequested :=
      congrArg Scene.structuralMoveRequested same
    rw [restrict_scene, restrict_scene, effect_congr view event same, told_congr view event same,
      focus_eq, reverse_eq, router_eq, structuralMoveRequested_congr view event wish_eq]

/-- Drawer and titles do not interfere with panes and their selection. The drawer and the title bar,
and what the host is told of them, come of the slides, the presses of the back button, the
resumptions and the announcements alone. The router, the list pane, its selection, the surfaces and
the wish for a synchronisation, and what the host is told of the selection, come of the events that
move the scene alone. -/
theorem frame_and_scene_apart (settings : Settings) (stimuli : List Stimulus) :
    let start := initial settings
    let framing := stimuli.filter (·.event.movesFrame)
    let staging := stimuli.filter (·.event.movesScene)
    ((start.run stimuli).frame = (start.run framing).frame ∧
      (emitted (start.history stimuli)).filter (·.kind ∈ Frame.kinds) =
        (emitted (start.history framing)).filter (·.kind ∈ Frame.kinds)) ∧
    (start.run stimuli).scene = (start.run staging).scene ∧
      (emitted (start.history stimuli)).filter (·.kind ∈ Focus.kinds) =
        (emitted (start.history staging)).filter (·.kind ∈ Focus.kinds) := by
  intro start framing staging
  have framed : start.restrictedRun frame Frame.kinds stimuli =
      start.restrictedRun frame Frame.kinds framing := separate_frame.run_filter rfl stimuli
  have staged : start.restrictedRun scene Focus.kinds stimuli =
      start.restrictedRun scene Focus.kinds staging := separate_scene.run_filter rfl stimuli
  exact ⟨Prod.mk.inj framed, Prod.mk.inj staged⟩

end Coordinator

end Panes
