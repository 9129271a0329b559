import Panes.Proofs.Wire.Shelf
import Panes.Proofs.Wire.Surface
import Panes.Wire.Action

/-!
# Actions read back

Titles, pending imports, tasks and actions are read back as they were written. A command to the
content store stands with its own tag beside that of the action: what is left when the tag of the
action is taken away is the command as it would be written alone.
-/

namespace Panes

open Json Wire

namespace TitleBar.Text

@[simp]
theorem plain_toJson {depth : Nat} (text : Text) : text.toJson.Plain (depth + 1) := by
  simp [toJson, Plain, PlainMembers]

@[simp]
theorem ofJson_toJson (text : Text) : ofJson? text.toJson = some text := by
  obtain ⟨title, subtitle⟩ := text
  cases subtitle <;> simp [ofJson?, toJson, fieldNames, fields_object, optionalField, ofString]

theorem members_toJson (text : Text) : ∀ member ∈ text.toJson.members, member.1 ∈ fieldNames := by
  obtain ⟨title, subtitle⟩ := text
  cases subtitle <;> simp [toJson, members, fieldNames, optionalField]

end TitleBar.Text

namespace PendingImport

@[simp]
theorem plain_toJson {depth : Nat} (pending : PendingImport) :
    pending.toJson.Plain (depth + 1) := by
  simp [toJson, Plain, PlainMembers]

@[simp]
theorem ofJson_toJson (pending : PendingImport) : ofJson? pending.toJson = some pending := by
  simp [ofJson?, toJson, fieldNames, fields_object]

theorem members_toJson (pending : PendingImport) :
    ∀ member ∈ pending.toJson.members, member.1 ∈ fieldNames := by
  simp [toJson, members, fieldNames]

end PendingImport

namespace ScheduledTask

/-- The epoch has 64 bits. -/
def Fits (task : ScheduledTask) : Prop := task.epoch ≤ maxUnsigned

theorem plain_toJson {depth : Nat} {task : ScheduledTask} (fits : task.Fits) :
    task.toJson.Plain (depth + 2) := by
  simpa [toJson, Plain, PlainMembers, Fits] using fits

theorem ofJson_toJson (mode : Mode) {task : ScheduledTask} (fits : task.Fits) :
    ofJson? mode task.toJson = some task := by
  have unsigned := unsigned_nat fits
  simp [ofJson?, toJson, fieldNames, fields_object, unsigned]

theorem members_toJson (task : ScheduledTask) :
    ∀ member ∈ task.toJson.members, member.1 ∈ fieldNames := by
  simp [toJson, members, fieldNames]

/-- Only numbers of 64 bits are read. -/
theorem fits_of_ofJson {mode : Mode} {json : Json} {task : ScheduledTask}
    (read : ofJson? mode json = some task) : task.Fits := by
  simp only [ofJson?, Option.bind_eq_bind, Option.pure_def, Option.bind_eq_some_iff,
    Option.some_inj] at read
  obtain ⟨fields, -, epoch, unsigned, request, -, rfl⟩ := read
  exact Fields.of_required le_of_unsigned unsigned

end ScheduledTask

namespace Action

/-- All numbers have 64 bits. -/
def Fits : Action → Prop
  | surface command => command.Fits
  | applyPaneChrome _ selectionCount => selectionCount ≤ maxUnsigned
  | schedule delayMs task => delayMs ≤ maxUnsigned ∧ task.Fits
  | _ => True

theorem plain_toJson {depth : Nat} {action : Action} (fits : action.Fits) :
    action.toJson.Plain (depth + 4) := by
  cases action with
  | surface command => simpa [toJson, PlainMembers] using command.plain_toJson fits
  | applyPaneChrome => simpa [toJson, PlainMembers, Fits] using fits
  | schedule delayMs task =>
    simpa [toJson, PlainMembers] using And.intro fits.1 (ScheduledTask.plain_toJson fits.2)
  | postToShelf command => simp [toJson, command.plain_fields]
  | _ => simp [toJson, PlainMembers, Plain]

theorem ofJson_toJson (mode : Mode) {action : Action} (fits : action.Fits) :
    ofJson? mode action.toJson = some action := by
  cases action with
  | surface command =>
    have back := Surface.Command.ofJson_toJson .setAside fits
    simp [ofJson?, toJson, tags, tagged_tagged, fields_object, back]
  | applyPaneChrome kind selectionCount =>
    have unsigned := unsigned_nat fits
    simp [ofJson?, toJson, tags, tagged_tagged, fields_object, unsigned]
  | schedule delayMs task =>
    have unsigned := unsigned_nat fits.1
    have back := ScheduledTask.ofJson_toJson .setAside fits.2
    simp [ofJson?, toJson, tags, tagged_tagged, fields_object, unsigned, back]
  | postToShelf command =>
    -- The fields are those of the command, which has a tag among them, but another one.
    have found : tagged? "action" tags mode (tagged "action" "post_to_shelf" command.fields) =
        some ("post_to_shelf", .object command.fields) :=
      tagged_tagged (by decide) command.field_ne_action
    have back := command.ofJson_toJson .setAside
    rw [Shelf.Command.toJson] at back
    simp [ofJson?, toJson, found, back]
  | _ => simp [ofJson?, toJson, tags, tagged_tagged, fields_object]

/-- Only numbers of 64 bits are read. -/
theorem fits_of_ofJson {mode : Mode} {json : Json} {action : Action}
    (read : ofJson? mode json = some action) : action.Fits := by
  simp only [ofJson?, Option.bind_eq_bind, Option.pure_def, Option.bind_eq_some_iff] at read
  obtain ⟨⟨name, body⟩, -, read⟩ := read
  split at read <;>
    simp only [Option.bind_eq_some_iff, Option.some_inj, unit?, Option.map_eq_some_iff,
      reduceCtorEq] at read
  case h_3 =>
    obtain ⟨fields, -, command, given, rfl⟩ := read
    exact Fields.of_required Surface.Command.fits_of_ofJson given
  case h_5 =>
    obtain ⟨fields, -, kind, -, selectionCount, unsigned, rfl⟩ := read
    exact Fields.of_required le_of_unsigned unsigned
  case h_13 =>
    obtain ⟨fields, -, delayMs, unsigned, task, given, rfl⟩ := read
    exact ⟨Fields.of_required le_of_unsigned unsigned,
      Fields.of_required ScheduledTask.fits_of_ofJson given⟩
  -- No other action holds a number of this kind.
  all_goals grind [Fits]

end Action

end Panes
