import Panes.Proofs.Background
import Mathlib.Data.List.Basic

/-!
# What the host shows of the frame

The title in the bar is the one that the host was told last, and the options menu is hidden exactly
while the drawer is out. The saved title is the one announced last. Each is a value that an event
either replaces by what it reports or leaves alone.
-/

namespace Panes

open Drawer (Edge)

/-- The text that an action puts into the title bar. -/
def Action.title? : Action → Option TitleBar.Text
  | setTitle text => some text
  | _ => none

/-- Whether an action shows the options menu or hides it. -/
def Action.menu? : Action → Option Bool
  | invalidateOptionsMenu visible => some visible
  | _ => none

/-- The text that a pane announces; the default stands for a title that it leaves out. -/
def Event.announced? (defaultTitle : String) : Event → Option TitleBar.Text
  | paneAnnounced _ title subtitle => some ⟨title.getD defaultTitle, subtitle⟩
  | _ => none

/-- On an edge of the drawer the options menu is hidden or comes back. -/
def Drawer.Edge.showsMenu : Edge → Bool
  | opened => false
  | closed => true

/-- The default title alone. -/
def TitleBar.Text.untitled (defaultTitle : String) : TitleBar.Text := ⟨defaultTitle, none⟩

/-- What a title bar shows from an edge of the drawer on. -/
def TitleBar.textAt (bar : TitleBar) : Edge → TitleBar.Text
  | .opened => .untitled bar.defaultTitle
  | .closed => bar.saved

/-! ## One event -/

namespace Frame

variable (frame : Frame)

/-- The edge that an event makes. -/
def edge? : Event → Option Edge
  | .drawerSlide offset => frame.drawer.phase.edge? offset
  | _ => none

/-- The text that an event puts into the title bar. -/
def title? (event : Event) : Option TitleBar.Text :=
  match frame.edge? event with
  | some edge => some (frame.titleBar.textAt edge)
  | none => if frame.drawer.isOpen then none else event.announced? frame.titleBar.defaultTitle

theorem title_of_edge {event : Event} {edge : Edge} (made : frame.edge? event = some edge) :
    frame.title? event = some (frame.titleBar.textAt edge) := by
  rw [title?, made]

theorem title_of_no_edge {event : Event} (silent : frame.edge? event = none) :
    frame.title? event =
      if frame.drawer.isOpen then none else event.announced? frame.titleBar.defaultTitle := by
  rw [title?, silent]

theorem slide_of_no_edge {offset : Drawer.Offset}
    (silent : frame.drawer.phase.edge? offset = none) :
    frame.slide offset =
      (⟨{ frame.drawer with lastOffset := some offset }, frame.titleBar⟩, []) := by
  simp only [slide, Drawer.slide, silent]

theorem slide_of_edge {offset : Drawer.Offset} {edge : Edge}
    (made : frame.drawer.phase.edge? offset = some edge) :
    frame.slide offset =
      (⟨⟨edge.phase, some offset, edge.isOpen⟩,
          { frame.titleBar with visible := frame.titleBar.textAt edge }⟩,
        .invalidateOptionsMenu edge.showsMenu :: .setTitle (frame.titleBar.textAt edge) ::
          if edge = .opened then [.closeKeyboard] else []) := by
  simp only [slide, Drawer.slide, made]
  cases edge <;> rfl

/-- What an event makes of the title bar and of the phase of the drawer, and what the host is told
about titles and the menu, in terms of the edge and the announcement. -/
structure Follows (event : Event) (next : Frame × List Action) : Prop where
  /-- The default title stays. -/
  defaultTitle_eq : next.1.titleBar.defaultTitle = frame.titleBar.defaultTitle
  /-- Announcements are saved. -/
  saved_eq : next.1.titleBar.saved =
    (event.announced? frame.titleBar.defaultTitle).getD frame.titleBar.saved
  /-- The bar shows what it is told. -/
  visible_eq : next.1.titleBar.visible = (frame.title? event).getD frame.titleBar.visible
  /-- Edges set the phase. -/
  phase_eq : next.1.drawer.phase = ((frame.edge? event).map Edge.phase).getD frame.drawer.phase
  /-- The host is told the same. -/
  titles_eq : next.2.filterMap Action.title? = (frame.title? event).toList
  /-- The menu changes on edges. -/
  menus_eq : next.2.filterMap Action.menu? = ((frame.edge? event).map Edge.showsMenu).toList

theorem slide_follows (offset : Drawer.Offset) :
    frame.Follows (.drawerSlide offset) (frame.slide offset) := by
  cases made : frame.drawer.phase.edge? offset with
  | none =>
    -- A slide announces nothing, so without an edge it is silent whether the drawer is open or not.
    have edge_eq : frame.edge? (.drawerSlide offset) = none := made
    have title_eq : frame.title? (.drawerSlide offset) = none :=
      (frame.title_of_no_edge edge_eq).trans (ite_self none)
    rw [frame.slide_of_no_edge made]
    refine ⟨rfl, rfl, ?_, ?_, ?_, ?_⟩ <;> simp [edge_eq, title_eq]
  | some edge =>
    have edge_eq : frame.edge? (.drawerSlide offset) = some edge := made
    have title_eq := frame.title_of_edge edge_eq
    rw [frame.slide_of_edge made]
    refine ⟨rfl, rfl, ?_, ?_, ?_, ?_⟩ <;> simp only [edge_eq, title_eq] <;> cases edge <;> rfl

theorem announce_follows (pane : Pane) (title subtitle : Option String) :
    frame.Follows (.paneAnnounced pane title subtitle) (frame.announce title subtitle) := by
  cases isOpen : frame.drawer.isOpen <;>
    constructor <;>
      simp [announce, TitleBar.announce, edge?, title?, Event.announced?, Action.title?,
        Action.menu?, isOpen]

/-- Any event but an announcement and an edge leaves all of this alone. -/
theorem follows_of_silent {event : Event} {next : Frame × List Action}
    (titleBar_eq : next.1.titleBar = frame.titleBar)
    (phase_eq : next.1.drawer.phase = frame.drawer.phase)
    (titles_eq : next.2.filterMap Action.title? = [])
    (menus_eq : next.2.filterMap Action.menu? = [])
    (unannounced : event.announced? frame.titleBar.defaultTitle = none)
    (no_edge : frame.edge? event = none) : frame.Follows event next := by
  have untitled : frame.title? event = none := by
    rw [frame.title_of_no_edge no_edge, unannounced, ite_self]
  constructor <;> simp [titleBar_eq, phase_eq, titles_eq, menus_eq, unannounced, no_edge, untitled]

theorem next_follows (event : Event) : frame.Follows event (frame.next event) := by
  cases event with
  | drawerSlide offset => exact frame.slide_follows offset
  | paneAnnounced pane title subtitle => exact frame.announce_follows pane title subtitle
  | resumed firstRun => cases firstRun <;> exact frame.follows_of_silent rfl rfl rfl rfl rfl rfl
  | _ => exact frame.follows_of_silent rfl rfl rfl rfl rfl rfl

end Frame

namespace Moment

variable (moment : Moment)

/-- The edge of the drawer at a moment. -/
def edge? : Option Edge := moment.before.frame.edge? moment.event

/-- The text that is put into the title bar at a moment. -/
def title? : Option TitleBar.Text := moment.before.frame.title? moment.event

/-- The text that is announced at a moment. -/
def announced? : Option TitleBar.Text :=
  moment.event.announced? moment.before.titleBar.defaultTitle

/-- The drawer and the title bar follow edges and announcements. -/
theorem frame_follows :
    moment.before.frame.Follows moment.event (moment.before.frame.next moment.event) :=
  moment.before.frame.next_follows moment.event

theorem frame_after : moment.after.frame = (moment.before.frame.next moment.event).1 :=
  moment.before.frame_handle moment.view moment.event

theorem frame_actions :
    moment.outcome.actions.filter (·.kind ∈ Frame.kinds) =
      (moment.before.frame.next moment.event).2 :=
  moment.before.frame_actions_handle moment.view moment.event

theorem defaultTitle_after :
    moment.after.titleBar.defaultTitle = moment.before.titleBar.defaultTitle :=
  (congrArg (·.titleBar.defaultTitle) moment.frame_after).trans moment.frame_follows.defaultTitle_eq

theorem saved_after :
    moment.after.titleBar.saved = moment.announced?.getD moment.before.titleBar.saved :=
  (congrArg (·.titleBar.saved) moment.frame_after).trans moment.frame_follows.saved_eq

theorem visible_after :
    moment.after.titleBar.visible = moment.title?.getD moment.before.titleBar.visible :=
  (congrArg (·.titleBar.visible) moment.frame_after).trans moment.frame_follows.visible_eq

theorem phase_after :
    moment.after.drawer.phase = (moment.edge?.map Edge.phase).getD moment.before.drawer.phase :=
  (congrArg (·.drawer.phase) moment.frame_after).trans moment.frame_follows.phase_eq

theorem titles_eq : moment.outcome.actions.filterMap Action.title? = moment.title?.toList := by
  have framed (action : Action) (titled : action.title?.isSome = true) :
      action.kind ∈ Frame.kinds := by
    cases action with
    | setTitle text => simp [Frame.kinds]
    | _ => cases titled
  rw [← Action.filterMap_filter_kind framed]
  exact (congrArg _ moment.frame_actions).trans moment.frame_follows.titles_eq

theorem menus_eq :
    moment.outcome.actions.filterMap Action.menu? = (moment.edge?.map Edge.showsMenu).toList := by
  have framed (action : Action) (shown : action.menu?.isSome = true) :
      action.kind ∈ Frame.kinds := by
    cases action with
    | invalidateOptionsMenu visible => simp [Frame.kinds]
    | _ => cases shown
  rw [← Action.filterMap_filter_kind framed]
  exact (congrArg _ moment.frame_actions).trans moment.frame_follows.menus_eq

end Moment

/-! ## A run -/

namespace Coordinator

theorem defaultTitle_run (settings : Settings) (stimuli : List Stimulus) :
    ((initial settings).run stimuli).titleBar.defaultTitle = settings.defaultTitle := by
  apply run_invariant fun state => state.titleBar.defaultTitle = settings.defaultTitle
  · rfl
  · intro moment kept
    exact moment.defaultTitle_after.trans kept

theorem visible_run (state : Coordinator) (stimuli : List Stimulus) :
    (state.run stimuli).titleBar.visible =
      ((emitted (state.history stimuli)).filterMap Action.title?).getLast?.getD
        state.titleBar.visible := by
  rw [filterMap_emitted Moment.titles_eq]
  exact run_eq_getLast (·.titleBar.visible) Moment.title? Moment.visible_after state stimuli

theorem phase_run (state : Coordinator) (stimuli : List Stimulus) :
    (state.run stimuli).drawer.phase =
      (((state.history stimuli).filterMap Moment.edge?).getLast?.map Edge.phase).getD
        state.drawer.phase := by
  have run_eq := run_eq_getLast (·.drawer.phase) (fun moment => moment.edge?.map Edge.phase)
    Moment.phase_after state stimuli
  rw [← List.map_filterMap, List.getLast?_map] at run_eq
  exact run_eq

theorem menus_run (state : Coordinator) (stimuli : List Stimulus) :
    (emitted (state.history stimuli)).filterMap Action.menu? =
      ((state.history stimuli).filterMap Moment.edge?).map Edge.showsMenu := by
  rw [filterMap_emitted Moment.menus_eq, List.map_filterMap]

theorem defaultTitle_history (settings : Settings) (stimuli : List Stimulus) :
    ∀ moment ∈ (initial settings).history stimuli,
      moment.before.titleBar.defaultTitle = settings.defaultTitle := by
  apply history_invariant fun state => state.titleBar.defaultTitle = settings.defaultTitle
  · rfl
  · intro moment kept
    exact moment.defaultTitle_after.trans kept

/-- What is announced in a run can be read off its events alone. -/
theorem announced_history (settings : Settings) (stimuli : List Stimulus) :
    ((initial settings).history stimuli).filterMap Moment.announced? =
      stimuli.filterMap (·.event.announced? settings.defaultTitle) := by
  let moments := (initial settings).history stimuli
  have kept : moments.map Turn.operation = stimuli := map_operation_course _ stimuli
  calc
    moments.filterMap Moment.announced? =
        moments.filterMap (·.event.announced? settings.defaultTitle) := by
      apply List.filterMap_congr
      intro moment member
      have default_eq := defaultTitle_history settings stimuli moment member
      exact congrArg (moment.event.announced? ·) default_eq
    _ = (moments.map Turn.operation).filterMap (·.event.announced? settings.defaultTitle) := by
      rw [List.filterMap_map]
      rfl
    _ = stimuli.filterMap (·.event.announced? settings.defaultTitle) := by
      rw [kept]

theorem saved_run (settings : Settings) (stimuli : List Stimulus) :
    ((initial settings).run stimuli).titleBar.saved =
      (stimuli.filterMap (·.event.announced? settings.defaultTitle)).getLast?.getD
        (.untitled settings.defaultTitle) := by
  rw [← announced_history]
  exact run_eq_getLast (·.titleBar.saved) Moment.announced? Moment.saved_after _ stimuli

/-- The options menu is hidden exactly while the last edge opened the drawer. -/
theorem menu_run (settings : Settings) (stimuli : List Stimulus) (visible : Bool) :
    ((emitted ((initial settings).history stimuli)).filterMap Action.menu?).getLast? =
        some visible ↔
      ((initial settings).run stimuli).drawer.phase = if visible then .closed else .opened := by
  rw [menus_run, phase_run, List.getLast?_map]
  cases ((initial settings).history stimuli).filterMap Moment.edge? |>.getLast? with
  | none => cases visible <;> simp [initial, Drawer.initial]
  | some edge => cases edge <;> cases visible <;> simp [Edge.showsMenu, Edge.phase]

/-- The host shows what the coordinator remembers. The visible title is the one that the host was
told last, and the saved one was announced last, whatever edges the drawer made since. The options
menu was hidden last exactly if the drawer is out. A slide tells the default title on an opening
edge and the saved one on a closing edge; an announcement tells its title exactly if the drawer is
not open. -/
theorem host_shows_frame (settings : Settings) (stimuli : List Stimulus) :
    let state := (initial settings).run stimuli
    let actions := emitted ((initial settings).history stimuli)
    let untitled : TitleBar.Text := .untitled settings.defaultTitle
    let announced :=
      (stimuli.filterMap (·.event.announced? settings.defaultTitle)).getLast?.getD untitled
    state.titleBar.visible = (actions.filterMap Action.title?).getLast?.getD untitled ∧
    state.titleBar.saved = announced ∧
    ((actions.filterMap Action.menu?).getLast? = some false ↔ state.drawer.phase = .opened) ∧
    (∀ view offset,
      (state.handle view (.drawerSlide offset)).actions.filterMap Action.title? =
        match state.drawer.phase.edge? offset with
        | some .opened => [untitled]
        | some .closed => [announced]
        | none => []) ∧
    ∀ view pane title subtitle,
      (state.handle view (.paneAnnounced pane title subtitle)).actions.filterMap Action.title? =
        if state.drawer.isOpen then [] else [⟨title.getD settings.defaultTitle, subtitle⟩] := by
  intro state actions untitled announced
  have default_eq : state.titleBar.defaultTitle = settings.defaultTitle :=
    defaultTitle_run settings stimuli
  have saved_eq : state.titleBar.saved = announced := saved_run settings stimuli
  refine ⟨visible_run _ stimuli, saved_eq, menu_run settings stimuli false, ?_, ?_⟩
  · intro view offset
    have titles := (state.meet ⟨view, .drawerSlide offset⟩).titles_eq
    refine titles.trans ?_
    change (state.frame.title? (.drawerSlide offset)).toList = _
    cases made : state.drawer.phase.edge? offset with
    | none =>
      have edge_eq : state.frame.edge? (.drawerSlide offset) = none := made
      rw [state.frame.title_of_no_edge edge_eq]
      exact congrArg Option.toList (ite_self none)
    | some edge =>
      have edge_eq : state.frame.edge? (.drawerSlide offset) = some edge := made
      rw [state.frame.title_of_edge edge_eq]
      cases edge with
      | opened => exact congrArg (fun title => [TitleBar.Text.untitled title]) default_eq
      | closed => exact congrArg ([·]) saved_eq
  · intro view pane title subtitle
    have titles := (state.meet ⟨view, .paneAnnounced pane title subtitle⟩).titles_eq
    refine titles.trans ?_
    change (state.frame.title? (.paneAnnounced pane title subtitle)).toList = _
    rw [state.frame.title_of_no_edge rfl, ← default_eq]
    change (if state.drawer.isOpen then none else _).toList = _
    cases state.drawer.isOpen <;> rfl

end Coordinator

end Panes
