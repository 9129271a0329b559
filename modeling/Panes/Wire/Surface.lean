import Panes.Surface
import Panes.Wire.Field

/-!
# Written surfaces

Kinds, commands on offer and tags are plain names. A descriptor is a plain structure whose commands
come back in their own order and once each. A command to the host is tagged by `command`.
-/

namespace Panes.Surface

open Wire

/-- The number of a surface as a value. -/
def Id.toJson (id : Id) : Json := .nat id.number

/-- The number of a surface that a value denotes. -/
def Id.ofJson? (json : Json) : Option Id := (unsigned? json).map Id.mk

/-- The name of a kind. -/
def Kind.name : Kind → String
  | .book => "book"
  | .note => "note"
  | .filter => "filter"

/-- All kinds, in order. -/
def Kind.all : List Kind := [.book, .note, .filter]

/-- A kind as a value. -/
def Kind.toJson (kind : Kind) : Json := .string kind.name

/-- The kind that a value denotes. -/
def Kind.ofJson? (mode : Mode) (json : Json) : Option Kind :=
  name? (Kind.all.map fun kind => (kind.name, kind)) mode json

/-- The name of a command on offer. -/
def Op.name : Op → String
  | .paste => "paste"
  | .promote => "promote"
  | .demote => "demote"
  | .move => "move"
  | .cut => "cut"
  | .delete => "delete"
  | .setState => "set_state"
  | .schedule => "schedule"
  | .exportBook => "export"
  | .renameBook => "rename"

/-- A command on offer as a value. -/
def Op.toJson (op : Op) : Json := .string op.name

/-- The command on offer that a value denotes. -/
def Op.ofJson? (mode : Mode) (json : Json) : Option Op :=
  name? (Op.all.map fun op => (op.name, op)) mode json

/-- The name of a tag. -/
def Tag.name : Tag → String
  | .move => "move"

/-- A tag as a value. -/
def Tag.toJson (tag : Tag) : Json := .string tag.name

/-- The tag that a value denotes. -/
def Tag.ofJson? (mode : Mode) (json : Json) : Option Tag :=
  name? [(Tag.move.name, .move)] mode json

namespace Descriptor

/-- The names of the fields. -/
def fieldNames : List String := ["kind", "allowed_ops", "tag"]

/-- A descriptor as a value. -/
def toJson (descriptor : Descriptor) : Json :=
  .object <|
    [("kind", descriptor.kind.toJson), ("allowed_ops", ofList Op.toJson descriptor.allowedOps.ops)]
      ++ optionalField "tag" Tag.toJson descriptor.tag

/-- The descriptor that a value denotes. -/
def ofJson? (mode : Mode) (json : Json) : Option Descriptor := do
  let fields ← fields? fieldNames json
  return {
    kind := ← fields.required "kind" (Kind.ofJson? mode)
    allowedOps := .ofList (← fields.required "allowed_ops" (list? (Op.ofJson? mode)))
    tag := ← fields.optional "tag" (Tag.ofJson? mode) }

end Descriptor

namespace Command

/-- The tags, in order. -/
def tags : List String := ["start", "invalidate", "finish"]

/-- A command to the host as a value. -/
def toJson : Command → Json
  | start surface descriptor =>
    tagged "command" "start" [("surface", surface.toJson), ("descriptor", descriptor.toJson)]
  | invalidate surface count =>
    tagged "command" "invalidate" [("surface", surface.toJson), ("count", .nat count)]
  | finish surface => tagged "command" "finish" [("surface", surface.toJson)]

/-- The command to the host that a value denotes. -/
def ofJson? (mode : Mode) (json : Json) : Option Command := do
  let (name, body) ← tagged? "command" tags mode json
  match name with
  | "start" =>
    let fields ← fields? ["surface", "descriptor"] body
    return start (← fields.required "surface" Id.ofJson?)
      (← fields.required "descriptor" (Descriptor.ofJson? .setAside))
  | "invalidate" =>
    let fields ← fields? ["surface", "count"] body
    return invalidate (← fields.required "surface" Id.ofJson?)
      (← fields.required "count" unsigned?)
  | "finish" =>
    let fields ← fields? ["surface"] body
    return finish (← fields.required "surface" Id.ofJson?)
  | _ => none

end Command

end Panes.Surface
