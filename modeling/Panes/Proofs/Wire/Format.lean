import Panes.Proofs.Wire.Event
import Panes.Wire.Format

/-!
# Reading undoes writing

A format is faithful if the text of a value denotes that value. Numbers are the only data that a
text can hold and a reader refuse: what is read has numbers of 64 bits, and every value with numbers
of 64 bits is read back. All formats are faithful, except that the slides of the drawer are left
out.
-/

namespace Panes

open Json Wire

namespace Wire.Format

variable {α : Type} (format : Format α)

/-- Of the values that are covered, those that fit are read back from their texts, and so is
whatever was read from any text. -/
structure FaithfulOn (covered fits : α → Prop) : Prop where
  /-- A value that fits is read back. -/
  back : ∀ value, covered value → fits value → format.ofText? (format.text value) = some value
  /-- A value that was read from some text is read back from its own. -/
  again : ∀ text value, format.ofText? text = some value → covered value →
    format.ofText? (format.text value) = some value

/-- All values that fit are read back. -/
def Faithful (fits : α → Prop) : Prop := format.FaithfulOn (fun _ => True) fits

/-- All values are read back. -/
def Exact : Prop := format.Faithful fun _ => True

variable {format}

/-- A format is faithful on texts if it is on values, which have to be plain. -/
theorem FaithfulOn.of_json {covered fits : α → Prop}
    (plain : ∀ value, covered value → fits value → (format.write value).Plain maxDepth)
    (familiar : ∀ names ∈ format.fieldNames, ∀ value,
      ∀ member ∈ (format.write value).members, member.1 ∈ names)
    (back : ∀ value, covered value → fits value →
      format.read (format.write value) = some value)
    (bounded : ∀ json value, format.read json = some value → fits value) :
    format.FaithfulOn covered fits := by
  have texts : ∀ value, covered value → fits value →
      format.ofText? (format.text value) = some value := by
    intro value inside small
    have parsed : format.parse? (format.text value) = some (format.write value) := by
      unfold parse? text
      split
      · exact parseRecord_render (plain value inside small) (familiar _ ‹_› value)
      · exact parse_render (plain value inside small)
    rw [ofText?, parsed, Option.bind_some, back value inside small]
  refine ⟨texts, fun text value read inside => texts value inside ?_⟩
  obtain ⟨json, -, given⟩ := Option.bind_eq_some_iff.mp read
  exact bounded json value given

theorem Exact.of_json (plain : ∀ value, (format.write value).Plain maxDepth)
    (familiar : ∀ names ∈ format.fieldNames, ∀ value,
      ∀ member ∈ (format.write value).members, member.1 ∈ names)
    (back : ∀ value, format.read (format.write value) = some value) : format.Exact :=
  FaithfulOn.of_json (fun value _ _ => plain value) familiar (fun value _ _ => back value)
    fun _ _ _ => trivial

end Wire.Format

open Wire.Format

/-! ## Values without counts -/

theorem NoteRef.exact_format : format.Exact :=
  .of_json plain_toJson (fun | _, rfl => members_toJson) ofJson_toJson

theorem Pane.Kind.exact_format : format.Exact :=
  .of_json plain_toJson nofun (ofJson_toJson .direct)

theorem Pane.exact_format : format.Exact :=
  .of_json plain_toJson nofun (ofJson_toJson .direct)

theorem Request.exact_format : format.Exact :=
  .of_json plain_toJson nofun (ofJson_toJson .direct)

theorem Intent.exact_format : format.Exact :=
  .of_json plain_toJson (fun | _, rfl => members_toJson) ofJson_toJson

theorem Drawer.Item.exact_format : format.Exact :=
  .of_json plain_toJson nofun (ofJson_toJson .direct)

theorem TitleBar.Text.exact_format : format.Exact :=
  .of_json plain_toJson (fun | _, rfl => members_toJson) ofJson_toJson

theorem PendingImport.exact_format : format.Exact :=
  .of_json plain_toJson (fun | _, rfl => members_toJson) ofJson_toJson

theorem Surface.Descriptor.exact_format : format.Exact :=
  .of_json plain_toJson (fun | _, rfl => members_toJson) (ofJson_toJson .direct)

theorem Shelf.TraceContext.exact_format : format.Exact :=
  .of_json plain_toJson (fun | _, rfl => members_toJson) ofJson_toJson

theorem Shelf.Command.exact_format : format.Exact :=
  .of_json plain_toJson nofun (ofJson_toJson .direct)

/-! ## Values with counts -/

theorem ScheduledTask.faithful_format : format.Faithful Fits :=
  FaithfulOn.of_json (fun _ _ => plain_toJson) (fun | _, rfl => members_toJson)
    (fun _ _ => ofJson_toJson .direct) fun _ _ => fits_of_ofJson

theorem Surface.Command.faithful_format : format.Faithful Fits :=
  FaithfulOn.of_json (fun _ _ => plain_toJson) nofun (fun _ _ => ofJson_toJson .direct)
    fun _ _ => fits_of_ofJson

theorem Shelf.Response.faithful_format : format.Faithful Fits :=
  FaithfulOn.of_json (fun _ _ => plain_toJson) nofun (fun _ _ => ofJson_toJson .direct)
    fun _ _ => fits_of_ofJson

theorem Action.faithful_format : format.Faithful Fits :=
  FaithfulOn.of_json (fun _ _ => plain_toJson) nofun (fun _ _ => ofJson_toJson .direct)
    fun _ _ => fits_of_ofJson

theorem Event.faithful_format : format.FaithfulOn (fun event => ¬ event.IsSlide) Fits :=
  .of_json (fun _ steady fits => plain_toJson fits steady) nofun
    (fun _ steady fits => ofJson_toJson .direct fits steady) fun _ _ => fits_of_ofJson

/-- Every format reads what it writes. -/
theorem formats_faithful :
    Action.format.Faithful Action.Fits ∧
    Intent.format.Exact ∧
    Request.format.Exact ∧
    Pane.format.Exact ∧
    Pane.Kind.format.Exact ∧
    Drawer.Item.format.Exact ∧
    TitleBar.Text.format.Exact ∧
    PendingImport.format.Exact ∧
    ScheduledTask.format.Faithful ScheduledTask.Fits ∧
    Surface.Descriptor.format.Exact ∧
    Surface.Command.format.Faithful Surface.Command.Fits ∧
    NoteRef.format.Exact ∧
    Shelf.TraceContext.format.Exact ∧
    Shelf.Command.format.Exact ∧
    Shelf.Response.format.Faithful Shelf.Response.Fits ∧
    Event.format.FaithfulOn (fun event => ¬ event.IsSlide) Event.Fits :=
  ⟨Action.faithful_format, Intent.exact_format, Request.exact_format, Pane.exact_format,
    Pane.Kind.exact_format, Drawer.Item.exact_format, TitleBar.Text.exact_format,
    PendingImport.exact_format, ScheduledTask.faithful_format, Surface.Descriptor.exact_format,
    Surface.Command.faithful_format, NoteRef.exact_format, Shelf.TraceContext.exact_format,
    Shelf.Command.exact_format, Shelf.Response.faithful_format, Event.faithful_format⟩

end Panes
