import Panes.Proofs.Emission

/-!
# The drawer and the title bar

The drawer covers the title bar, and the two of them are a machine of their own. Four kinds of event
move it, what they do depends on nothing else in the state, and the host follows it through actions
that serve no other purpose. `Frame.next` is that machine, and `frame_actions_handle` says that the
coordinator tells the host what the machine says.
-/

namespace Panes

/-- The drawer and the title bar. -/
structure Frame where
  /-- The drawer. -/
  drawer : Drawer
  /-- The title bar. -/
  titleBar : TitleBar
  deriving DecidableEq, Repr

/-- An event that can move the drawer or the title bar. -/
def Event.movesFrame : Event → Bool
  | drawerSlide _ | backPressed | resumed _ | paneAnnounced _ _ _ => true
  | _ => false

namespace Frame

/-- The kinds of actions by which the host follows the drawer and the title bar. -/
def kinds : List Action.Kind := [.setTitle, .invalidateOptionsMenu, .closeKeyboard, .openDrawer]

/-- The drawer reports its offset. -/
def slide (frame : Frame) (offset : Drawer.Offset) : Frame × List Action :=
  let (drawer, edge) := frame.drawer.slide offset
  match edge with
  | some .opened =>
    let (titleBar, text) := frame.titleBar.drawerOpened
    (⟨drawer, titleBar⟩, [.invalidateOptionsMenu false, .setTitle text, .closeKeyboard])
  | some .closed =>
    let (titleBar, text) := frame.titleBar.drawerClosed
    (⟨drawer, titleBar⟩, [.invalidateOptionsMenu true, .setTitle text])
  | none => (⟨drawer, frame.titleBar⟩, [])

/-- A pane announces its title. -/
def announce (frame : Frame) (title subtitle : Option String) : Frame × List Action :=
  let (titleBar, text) := frame.titleBar.announce title subtitle frame.drawer.isOpen
  (⟨frame.drawer, titleBar⟩, (text.map Action.setTitle).toList)

/-- What an event makes of the drawer and the title bar, and what the host is told. -/
def next (frame : Frame) : Event → Frame × List Action
  | .drawerSlide offset => frame.slide offset
  | .resumed true => ({ frame with drawer := frame.drawer.markOpen }, [.openDrawer])
  | .backPressed => ({ frame with drawer := frame.drawer.markClosed }, [])
  | .paneAnnounced _ title subtitle => frame.announce title subtitle
  | _ => (frame, [])

theorem next_of_not_moves (frame : Frame) {event : Event} (still : event.movesFrame = false) :
    frame.next event = (frame, []) := by
  cases event with
  | drawerSlide _ | backPressed | resumed _ | paneAnnounced _ _ _ => cases still
  | _ => rfl

end Frame

namespace Coordinator

/-- The drawer and the title bar in the state. -/
def frame (state : Coordinator) : Frame := ⟨state.drawer, state.titleBar⟩

section

variable (view : HostView) (state : Coordinator)

theorem frame_actions_resume (firstRun : Bool) :
    (state.resume view firstRun).actions.filter (·.kind ∈ Frame.kinds) =
      (state.frame.next (.resumed firstRun)).2 := by
  rw [resume]
  cases state.pendingImport <;> cases firstRun <;> rfl

theorem frame_actions_drawerSlide (offset : Drawer.Offset) :
    (state.drawerSlide offset).actions.filter (·.kind ∈ Frame.kinds) =
      (state.frame.slide offset).2 := by
  have drawer_eq : state.frame.drawer = state.drawer := rfl
  rw [drawerSlide, Frame.slide, drawer_eq]
  rcases state.drawer.slide offset with ⟨drawer, _ | _ | _⟩ <;> rfl

theorem frame_actions_paneAnnounced (pane : Pane) (title subtitle : Option String) :
    (state.paneAnnounced pane title subtitle).actions.filter (·.kind ∈ Frame.kinds) =
      (state.frame.announce title subtitle).2 := by
  have within : Action.Within [.surface] state.finishSurface.2 :=
    within_finishSurface (by simp) state
  have finished : state.finishSurface.2.filter (·.kind ∈ Frame.kinds) = [] :=
    Action.filter_kind_of_within within (by decide)
  have titles (text : Option TitleBar.Text) (count : Nat) :
      ((text.map Action.setTitle).toList ++ [Action.applyPaneChrome pane.kind count]).filter
        (·.kind ∈ Frame.kinds) = (text.map Action.setTitle).toList := by
    cases text <;> rfl
  rw [paneAnnounced]
  cases state.router.isNews pane with
  | false => exact titles _ _
  | true =>
    simp only [if_true, List.append_assoc]
    rw [List.filter_append, finished]
    exact titles _ _

/-- Of the actions by which the host follows the drawer and the title bar, every event leads to
those that `Frame.next` says. -/
theorem frame_actions_handle (event : Event) :
    (state.handle view event).actions.filter (·.kind ∈ Frame.kinds) =
      (state.frame.next event).2 := by
  cases event with
  | resumed firstRun => exact state.frame_actions_resume view firstRun
  | drawerSlide offset => exact state.frame_actions_drawerSlide offset
  | paneAnnounced pane title subtitle => exact state.frame_actions_paneAnnounced pane title subtitle
  | _ => exact Action.filter_kind_of_within (handle_within _ _ _) (by simp [Frame.kinds])

end

end Coordinator

end Panes
