import Panes.Action
import Panes.Drawer
import Panes.Router
import Panes.Selection
import Panes.Settings
import Panes.Surface.Controller

/-!
# The state of the coordinator

Everything the coordinator remembers between events. Drawer and title bar outlive a host; the
visible pane, its selection and the surfaces belong to the current host, which `epoch` numbers.
-/

namespace Panes

/-- The list pane that is visible, with its selection. -/
structure ListPane where
  /-- The pane as it announced itself first. -/
  pane : Pane
  /-- What is selected in it. -/
  selection : Selection
  deriving DecidableEq, Repr

namespace ListPane

/-- The pane has just become visible. -/
def fresh (pane : Pane) : ListPane := ⟨pane, .empty⟩

/-- The descriptor for surfaces when the pane gives none. -/
def defaultDescriptor? (list : ListPane) : Option Surface.Descriptor :=
  Surface.Descriptor.forPane? list.pane.kind

/-- Drop the selection. -/
def clear (list : ListPane) : ListPane := { list with selection := .empty }

/-- Toggle an entry. -/
def toggle (list : ListPane) (id : ItemId) : ListPane :=
  { list with selection := list.selection.toggle id }

/-- The action that shows the host the kind of the pane and how much of it is selected. -/
def chrome (list : ListPane) : Action := .applyPaneChrome list.pane.kind list.selection.count

end ListPane

/-- The state of the coordinator. -/
structure Coordinator where
  /-- A click selects and a long press opens, instead of the other way round. -/
  reverseNoteClick : Bool
  /-- The drawer. -/
  drawer : Drawer
  /-- The title bar. -/
  titleBar : TitleBar
  /-- The pane that announced itself last. -/
  router : Router
  /-- The visible list pane, if a list pane is visible. -/
  list : Option ListPane
  /-- The surfaces of the current host. -/
  surfaces : Surface.Controller
  /-- The document that waits for the host to come to the foreground. -/
  pendingImport : Option PendingImport
  /-- A structural command was asked for since a surface closed last. -/
  structuralMoveRequested : Bool
  /-- How many hosts were torn down. The program's counter has 64 bits, and is this one as long as
  there were fewer than `2 ^ 64`. -/
  epoch : Nat
  deriving DecidableEq, Repr

namespace Coordinator

/-- The state at the start. -/
def initial (settings : Settings) : Coordinator where
  reverseNoteClick := settings.reverseNoteClick
  drawer := .initial
  titleBar := .initial settings.defaultTitle
  router := .initial
  list := none
  surfaces := .initial
  pendingImport := none
  structuralMoveRequested := false
  epoch := 0

/-- How many entries of the visible list pane are selected. -/
def selectionCount (state : Coordinator) : Nat :=
  match state.list with
  | some list => list.selection.count
  | none => 0

theorem selectionCount_of_some {state : Coordinator} {list : ListPane}
    (listed : state.list = some list) : state.selectionCount = list.selection.count := by
  rw [selectionCount, listed]

theorem selectionCount_of_none {state : Coordinator} (unlisted : state.list = none) :
    state.selectionCount = 0 := by
  rw [selectionCount, unlisted]

/-- The list pane that a newly visible pane brings. -/
def listFor (pane : Pane) : Option ListPane :=
  if pane.kind.isList then some (.fresh pane) else none

end Coordinator

end Panes
