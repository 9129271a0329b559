import Panes.Proofs.Json.Tree
import Panes.Proofs.Wire.Field
import Panes.Wire.Request

/-!
# Panes and requests read back

Identifiers, panes, and what asks for panes are plain values, and are read back as they were
written. An intent is also read back from a text of its own.
-/

namespace Panes

open Json Wire

section

variable {depth : Nat}

@[simp]
theorem NoteId.plain_toJson (id : NoteId) : id.toJson.Plain depth := plain_ofInt64 id.raw

@[simp]
theorem BookId.plain_toJson (id : BookId) : id.toJson.Plain depth := plain_ofInt64 id.raw

@[simp]
theorem ItemId.plain_toJson (id : ItemId) : id.toJson.Plain depth := plain_ofInt64 id.raw

@[simp]
theorem FilterId.plain_toJson (id : FilterId) : id.toJson.Plain depth := plain_ofInt64 id.raw

@[simp]
theorem NoteId.ofJson_toJson (id : NoteId) : ofJson? id.toJson = some id := by
  simp [ofJson?, toJson]

@[simp]
theorem BookId.ofJson_toJson (id : BookId) : ofJson? id.toJson = some id := by
  simp [ofJson?, toJson]

@[simp]
theorem ItemId.ofJson_toJson (id : ItemId) : ofJson? id.toJson = some id := by
  simp [ofJson?, toJson]

@[simp]
theorem FilterId.ofJson_toJson (id : FilterId) : ofJson? id.toJson = some id := by
  simp [ofJson?, toJson]

@[simp]
theorem NoteId.toJson_ne_null (id : NoteId) : id.toJson ≠ .null := nofun

end

namespace NoteRef

theorem plain_toJson {depth : Nat} (ref : NoteRef) : ref.toJson.Plain (depth + 1) := by
  simp [toJson, Plain, PlainMembers]

theorem ofJson_toJson (ref : NoteRef) : ofJson? ref.toJson = some ref := by
  simp [ofJson?, toJson, fieldNames, fields_object]

theorem members_toJson (ref : NoteRef) : ∀ member ∈ ref.toJson.members, member.1 ∈ fieldNames := by
  simp [toJson, members, fieldNames]

end NoteRef

namespace Pane

@[simp]
theorem Kind.plain_toJson {depth : Nat} (kind : Kind) : kind.toJson.Plain depth := trivial

@[simp]
theorem Kind.ofJson_toJson (mode : Mode) (kind : Kind) :
    Kind.ofJson? mode kind.toJson = some kind := by
  refine name_string mode ?_ ?_
  · cases kind <;> decide
  · intro other
    cases other <;> cases kind <;> simp [Kind.name]

@[simp]
theorem plain_toJson {depth : Nat} (pane : Pane) : pane.toJson.Plain (depth + 1) := by
  cases pane <;> simp [toJson, PlainMembers, Plain]

@[simp]
theorem ofJson_toJson (mode : Mode) (pane : Pane) : ofJson? mode pane.toJson = some pane := by
  cases pane with
  | book bookId noteId =>
    cases noteId <;> simp [ofJson?, toJson, tagged_tagged, fields_object, kind, Kind.name, Kind.all,
      optionalField]
  | _ => simp [ofJson?, toJson, tagged_tagged, fields_object, kind, Kind.name, Kind.all]

end Pane

namespace Request

@[simp]
theorem plain_toJson {depth : Nat} (request : Request) : request.toJson.Plain (depth + 1) := by
  cases request <;> simp [toJson, PlainMembers, Plain]

@[simp]
theorem ofJson_toJson (mode : Mode) (request : Request) :
    ofJson? mode request.toJson = some request := by
  cases request with
  | openBook bookId noteId =>
    cases noteId <;> simp [ofJson?, toJson, tags, tagged_tagged, fields_object, optionalField]
  | _ => simp [ofJson?, toJson, tags, tagged_tagged, fields_object]

end Request

namespace Drawer.Item

@[simp]
theorem plain_toJson {depth : Nat} (item : Item) : item.toJson.Plain (depth + 1) := by
  cases item <;> simp [toJson, PlainMembers, Plain]

@[simp]
theorem ofJson_toJson (mode : Mode) (item : Item) : ofJson? mode item.toJson = some item := by
  cases item <;> simp [ofJson?, toJson, tags, tagged_tagged, fields_object]

end Drawer.Item

namespace Intent

@[simp]
theorem plain_toJson {depth : Nat} (intent : Intent) : intent.toJson.Plain (depth + 1) := by
  simp [toJson, PlainMembers, Plain]

@[simp]
theorem ofJson_toJson (intent : Intent) : ofJson? intent.toJson = some intent := by
  obtain ⟨action, bookId, noteId, query, data⟩ := intent
  cases query <;> cases data <;>
    simp [ofJson?, toJson, fieldNames, fields_object, optionalField, ofString]

theorem members_toJson (intent : Intent) :
    ∀ member ∈ intent.toJson.members, member.1 ∈ fieldNames := by
  obtain ⟨action, bookId, noteId, query, data⟩ := intent
  cases query <;> cases data <;> simp [toJson, members, fieldNames, optionalField]

/-- An intent is read back from its text. -/
theorem ofText_render (intent : Intent) : ofText? intent.toJson.render = some intent := by
  have plain : intent.toJson.Plain maxDepth := intent.plain_toJson
  rw [ofText?, parseRecord_render plain intent.members_toJson, Option.bind_some, ofJson_toJson]

end Intent

end Panes
