import Panes.Proofs.Wire.Action
import Panes.Wire.Event

/-!
# Events read back

Events are read back as they were written, the slides of the drawer apart: an offset is a binary
number and is written with decimal digits.
-/

namespace Panes.Event

open Json Wire

/-- All numbers have 64 bits. -/
def Fits : Event → Prop
  | actionSurfaceClosed surface => surface.Fits
  | shelfResponse response => response.Fits
  | scheduledTaskFired task => task.Fits
  | _ => True

/-- The drawer was moved. -/
def IsSlide : Event → Prop
  | drawerSlide _ => True
  | _ => False

theorem plain_toJson {depth : Nat} {event : Event} (fits : event.Fits) (steady : ¬ event.IsSlide) :
    event.toJson.Plain (depth + 3) := by
  cases event with
  | drawerSlide => exact absurd trivial steady
  | actionSurfaceClosed surface => simpa [toJson, PlainMembers, Fits] using fits
  | shelfResponse response =>
    simpa [toJson, PlainMembers] using Shelf.Response.plain_toJson fits
  | scheduledTaskFired task =>
    simpa [toJson, PlainMembers] using ScheduledTask.plain_toJson fits
  | _ => simp [toJson, PlainMembers, Plain]

theorem ofJson_toJson (mode : Mode) {event : Event} (fits : event.Fits)
    (steady : ¬ event.IsSlide) : ofJson? mode event.toJson = some event := by
  cases event with
  | drawerSlide => exact absurd trivial steady
  | itemToggled itemId descriptor =>
    have offered := nullable_ofNullable (Surface.Descriptor.ofJson_toJson .setAside)
      Surface.Descriptor.toJson_ne_null descriptor
    simp [ofJson?, toJson, tags, tagged_tagged, fields_object, offered]
  | actionSurfaceClosed surface =>
    have back := Surface.Id.ofJson_toJson fits
    simp [ofJson?, toJson, tags, tagged_tagged, fields_object, back]
  | shelfResponse response =>
    have back := Shelf.Response.ofJson_toJson .setAside fits
    simp [ofJson?, toJson, tags, tagged_tagged, fields_object, back]
  | scheduledTaskFired task =>
    have back := ScheduledTask.ofJson_toJson .setAside fits
    simp [ofJson?, toJson, tags, tagged_tagged, fields_object, back]
  | _ => simp [ofJson?, toJson, tags, tagged_tagged, fields_object]

/-- Only numbers of 64 bits are read. -/
theorem fits_of_ofJson {mode : Mode} {json : Json} {event : Event}
    (read : ofJson? mode json = some event) : event.Fits := by
  simp only [ofJson?, Option.bind_eq_bind, Option.pure_def, Option.bind_eq_some_iff] at read
  obtain ⟨⟨name, body⟩, -, read⟩ := read
  split at read <;>
    simp only [Option.bind_eq_some_iff, Option.some_inj, unit?, Option.map_eq_some_iff,
      reduceCtorEq] at read
  case h_20 =>
    obtain ⟨fields, -, surface, given, rfl⟩ := read
    exact Fields.of_required Surface.Id.fits_of_ofJson given
  case h_22 =>
    obtain ⟨fields, -, response, given, rfl⟩ := read
    exact Fields.of_required Shelf.Response.fits_of_ofJson given
  case h_25 =>
    obtain ⟨fields, -, task, given, rfl⟩ := read
    exact Fields.of_required ScheduledTask.fits_of_ofJson given
  -- No other event holds a number of this kind.
  all_goals grind [Fits]

end Panes.Event
