import Panes.Json.Printer
import Panes.Wire.Event

/-!
# Texts of values

A format says how the values of a type are written and read. The text of a value is what it is
written as, on one line and without blanks. A text that denotes a plain structure may hold anything
that is JSON by its shape in fields that the structure does not know.
-/

namespace Panes

open Wire

/-- How the values of a type are written and read. -/
structure Wire.Format (α : Type) where
  /-- A value as JSON. -/
  write : α → Json
  /-- The value that JSON denotes. -/
  read : Json → Option α
  /-- The names of the fields, if the values are plain structures. -/
  fieldNames : Option (List String)

namespace Wire.Format

variable {α : Type} (format : Format α)

/-- The text of a value. -/
def text (value : α) : String := (format.write value).render

/-- The JSON of a text. -/
def parse? (text : String) : Option Json :=
  match format.fieldNames with
  | some names => Json.parseRecord? names text
  | none => Json.parse? text

/-- The value that a text denotes. -/
def ofText? (text : String) : Option α := (format.parse? text).bind format.read

end Wire.Format

/-- Texts of the places of notes. -/
def NoteRef.format : Format NoteRef := ⟨toJson, ofJson?, some fieldNames⟩

/-- Texts of kinds of panes. -/
def Pane.Kind.format : Format Kind := ⟨toJson, ofJson? .direct, none⟩

/-- Texts of panes. -/
def Pane.format : Format Pane := ⟨toJson, ofJson? .direct, none⟩

/-- Texts of requests. -/
def Request.format : Format Request := ⟨toJson, ofJson? .direct, none⟩

/-- Texts of intents. -/
def Intent.format : Format Intent := ⟨toJson, ofJson?, some fieldNames⟩

/-- Texts of entries of the drawer. -/
def Drawer.Item.format : Format Item := ⟨toJson, ofJson? .direct, none⟩

/-- Texts of descriptors. -/
def Surface.Descriptor.format : Format Descriptor := ⟨toJson, ofJson? .direct, some fieldNames⟩

/-- Texts of commands about surfaces. -/
def Surface.Command.format : Format Command := ⟨toJson, ofJson? .direct, none⟩

/-- Texts of trace contexts. -/
def Shelf.TraceContext.format : Format TraceContext := ⟨toJson, ofJson?, some fieldNames⟩

/-- Texts of commands to the content store. -/
def Shelf.Command.format : Format Command := ⟨toJson, ofJson? .direct, none⟩

/-- Texts of responses of the content store. -/
def Shelf.Response.format : Format Response := ⟨toJson, ofJson? .direct, none⟩

/-- Texts of titles. -/
def TitleBar.Text.format : Format Text := ⟨toJson, ofJson?, some fieldNames⟩

/-- Texts of pending imports. -/
def PendingImport.format : Format PendingImport := ⟨toJson, ofJson?, some fieldNames⟩

/-- Texts of scheduled tasks. -/
def ScheduledTask.format : Format ScheduledTask := ⟨toJson, ofJson? .direct, some fieldNames⟩

/-- Texts of actions. -/
def Action.format : Format Action := ⟨toJson, ofJson? .direct, none⟩

/-- Texts of events. -/
def Event.format : Format Event := ⟨toJson, ofJson? .direct, none⟩

end Panes
