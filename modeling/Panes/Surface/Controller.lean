import Panes.Surface

/-!
# The life of a surface

Whether a surface exists depends only on how many entries are selected:

| phase       | count is zero            | count is positive       |
|-------------|--------------------------|-------------------------|
| `inactive`  | unchanged                | start a surface         |
| `active`    | finish it                | invalidate it           |
| `finishing` | `inactive`               | start a new surface     |

The host closes surfaces in its own time and reports each close. `Controller.closed` answers with
the tag that the surface was started with, so that what was put off until the close can be done.
-/

namespace Panes.Surface

/-- Where the newest surface is in its life. -/
inductive Phase
  /-- There is no surface. -/
  | inactive
  /-- The surface is shown for this many selected entries. -/
  | active (count : Nat) (surface : Id)
  /-- The surface was asked to close, and the host has not reported it yet. -/
  | finishing (surface : Id)
  deriving DecidableEq, Repr

/-- A close that was expected or at least concerns a known surface. -/
structure Closed where
  /-- The surface that closed. -/
  surface : Id
  /-- The tag it was started with. -/
  tag : Option Tag
  /-- The surface was still active: the user dismissed it, so the selection has to go too. -/
  hostInitiated : Bool
  deriving DecidableEq, Repr

/-- What is known of the surfaces of the current host. -/
structure Controller where
  /-- Where the newest surface is. -/
  phase : Phase
  /-- The tag of the active surface. -/
  activeTag : Option Tag
  /-- Surfaces that were asked to close and are not reported closed, oldest first. -/
  closing : List (Id × Option Tag)
  /-- The number of the next surface. -/
  nextNumber : Nat
  deriving DecidableEq, Repr

namespace Controller

/-- No surface has been started. -/
def initial : Controller := ⟨.inactive, none, [], 1⟩

/-- A surface is shown. -/
def isActive (controller : Controller) : Bool :=
  match controller.phase with
  | .active _ _ => true
  | _ => false

/-- The surface that is shown. -/
def activeSurface? (controller : Controller) : Option Id :=
  match controller.phase with
  | .active _ surface => some surface
  | _ => none

/-- Show a new surface. -/
def start (controller : Controller) (count : Nat) (descriptor : Descriptor) :
    Controller × Command :=
  let surface : Id := ⟨controller.nextNumber⟩
  ({ controller with
      phase := .active count surface
      activeTag := descriptor.tag
      nextNumber := controller.nextNumber + 1 },
    .start surface descriptor)

/-- Ask the active surface to close, however many entries are selected. -/
def finish (controller : Controller) : Controller × Option Command :=
  match controller.phase with
  | .active _ surface =>
    ({ controller with
        phase := .finishing surface
        activeTag := none
        closing := controller.closing ++ [(surface, controller.activeTag)] },
      some (.finish surface))
  | _ => (controller, none)

/-- Follow the number of selected entries. -/
def update (controller : Controller) (count : Nat) (descriptor : Descriptor) :
    Controller × Option Command :=
  match controller.phase with
  | .inactive | .finishing _ =>
    if count = 0 then
      ({ controller with phase := .inactive }, none)
    else
      let (started, command) := controller.start count descriptor
      (started, some command)
  | .active _ surface =>
    if count = 0 then
      controller.finish
    else
      ({ controller with phase := .active count surface }, some (.invalidate surface count))

/-- Take the host's report that a surface closed. Reports on unknown surfaces are answered by
`none` and change nothing. -/
def closed (controller : Controller) (surface : Id) : Controller × Option Closed :=
  match controller.closing.find? (·.1 == surface) with
  | some (_, tag) =>
    ({ controller with
        phase := if controller.phase = .finishing surface then .inactive else controller.phase
        closing := controller.closing.eraseP (·.1 == surface) },
      some ⟨surface, tag, false⟩)
  | none =>
    if controller.activeSurface? = some surface then
      ({ controller with phase := .inactive, activeTag := none },
        some ⟨surface, controller.activeTag, true⟩)
    else
      (controller, none)

/-- Forget every surface, as the host that showed them is gone. The numbers go on, so a late report
on an old surface can never mean a new one. -/
def reset (controller : Controller) : Controller :=
  { controller with phase := .inactive, activeTag := none, closing := [] }

end Controller

end Panes.Surface
