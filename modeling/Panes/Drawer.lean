import Panes.Drawer.Offset

/-!
# The navigation drawer

While a finger moves, the drawer reports its offset many times. `Drawer.slide` reduces the samples
to one edge when the drawer starts to open and one when it is fully closed:

| phase     | sample is zero | sample is positive | neither   |
|-----------|----------------|--------------------|-----------|
| `unknown` | `closed` edge  | `opened` edge      | unchanged |
| `closed`  | unchanged      | `opened` edge      | unchanged |
| `opened`  | `closed` edge  | unchanged          | unchanged |

Beside the phase stands the logical flag `isOpen`, which the title bar and a back press consult. It
follows the edges, and it can be set without an edge when the drawer is moved by the program.
-/

namespace Panes

/-- Where the last sample that counted left the drawer. -/
inductive Drawer.Phase
  /-- No sample has counted yet. -/
  | unknown
  /-- The drawer was fully closed. -/
  | closed
  /-- The drawer was at least partly out. -/
  | opened
  deriving DecidableEq, Repr

/-- A change that the samples amount to. -/
inductive Drawer.Edge
  /-- The drawer started to open. -/
  | opened
  /-- The drawer is fully closed. -/
  | closed
  deriving DecidableEq, Repr

/-- The drawer as the coordinator knows it. -/
structure Drawer where
  /-- Phase of the slide gesture. -/
  phase : Drawer.Phase
  /-- The last sample, whether it counted or not. -/
  lastOffset : Option Drawer.Offset
  /-- The logical flag. -/
  isOpen : Bool
  deriving DecidableEq, Repr

namespace Drawer

/-- The drawer before its first sample. -/
def initial : Drawer := ⟨.unknown, none, false⟩

/-- The edge that a sample makes in a phase. -/
def Phase.edge? (phase : Phase) (offset : Offset) : Option Edge :=
  match phase with
  | .unknown =>
    if offset.isZero then some .closed else if offset.isPositive then some .opened else none
  | .closed => if offset.isPositive then some .opened else none
  | .opened => if offset.isZero then some .closed else none

/-- The phase after an edge. -/
def Edge.phase : Edge → Phase
  | .opened => .opened
  | .closed => .closed

/-- The logical flag after an edge. -/
def Edge.isOpen : Edge → Bool
  | .opened => true
  | .closed => false

/-- Take one sample, and report the edge it makes. -/
def slide (drawer : Drawer) (offset : Offset) : Drawer × Option Edge :=
  match drawer.phase.edge? offset with
  | some edge => (⟨edge.phase, some offset, edge.isOpen⟩, some edge)
  | none => ({ drawer with lastOffset := some offset }, none)

/-- Set the flag without a gesture, as when the program opens the drawer. The phase stays. -/
def markOpen (drawer : Drawer) : Drawer := { drawer with isOpen := true }

/-- Clear the flag without a gesture. The phase stays, so the closing gesture still has its
edge. -/
def markClosed (drawer : Drawer) : Drawer := { drawer with isOpen := false }

end Drawer

end Panes
