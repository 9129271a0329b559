import Panes.Settings
import Panes.Wire.Field

/-!
# Written settings

Settings are a plain structure in which every field has a default and no other field may stand.
-/

namespace Panes.Settings

open Wire

/-- The names of the fields. -/
def fieldNames : List String :=
  ["default_title", "reverse_note_click", "data_dir", "trace_level"]

/-- All members of an object are fields. -/
def knowsAll : Json → Bool
  | .object members => members.all fun member => fieldNames.contains member.1
  | _ => true

/-- The settings that a value denotes. -/
def ofJson? (json : Json) : Option Settings := do
  let fields ← if knowsAll json then fields? fieldNames json else none
  return {
    defaultTitle := ← fields.withDefault "default_title" standardTitle string?
    reverseNoteClick := ← fields.withDefault "reverse_note_click" false bool?
    dataDir := ← fields.optional "data_dir" string?
    traceLevel := ← fields.optional "trace_level" string? }

end Panes.Settings
