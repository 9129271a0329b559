import Panes.Proofs.Json.Line
import Panes.Proofs.Replay.Run
import Panes.Proofs.Text.Blank
import Panes.Proofs.Wire.Format

/-!
# Events in scripts

The other forms of a step are told by fields that no event has. So a line that writes an event is
read as that event, although the other forms are tried first.
-/

namespace Panes

open Wire

/-- The fields that tell the forms of a step other than events. -/
def Replay.Step.formFields : List String := ["advance_ms", "note", "book", "needs_confirmation"]

/-- An event is written as an object without any of these fields. -/
theorem Event.toJson_eq_object (event : Event) : ∃ members, event.toJson = .object members ∧
    ∀ member ∈ members, member.1 ∉ Replay.Step.formFields := by
  cases event <;> exact ⟨_, rfl, by simp [Replay.Step.formFields]⟩

namespace Replay

namespace Step

theorem onlyField_absent {α : Type} {name : String} {members : Fields}
    (absent : ∀ member ∈ members, member.1 ≠ name) (read : Json → Option α) :
    onlyField? name read (.object members) = none := by
  have unknown : members.filter (fun member => [name].contains member.1) = [] := by
    rw [List.filter_eq_nil_iff]
    intro member inside
    simpa using absent member inside
  rw [onlyField?, fields?, unknown]
  rfl

/-- What is written for an event is read as the event and as no other step. -/
theorem ofJson_event {event : Event} (fits : event.Fits) (steady : ¬ event.IsSlide) :
    ofJson? event.toJson = some (.event event) := by
  have back := Event.ofJson_toJson .setAside fits steady
  obtain ⟨members, members_eq, apart⟩ := event.toJson_eq_object
  have absent {name : String} (form : name ∈ formFields) :
      ∀ member ∈ members, member.1 ≠ name := fun member inside same =>
    apart member inside (same ▸ form)
  -- The four other forms are tried first, and each misses its field.
  rw [members_eq] at back ⊢
  rw [ofJson?, onlyField_absent (absent (by decide)), onlyField_absent (absent (by decide)),
    onlyField_absent (absent (by decide)), onlyField_absent (absent (by decide)), back]
  rfl

end Step

/-- A line that writes an event, with blanks around it, asks for that event to happen. -/
theorem step_of_event {event : Event} (fits : event.Fits) (steady : ¬ event.IsSlide)
    {left right : List Char} (blank : ∀ char ∈ left ++ right, Text.isBlank char = true) :
    let line := left ++ (Event.format.text event).toList ++ right
    isSkipped line = false ∧ stepOf? line = some (.event event) := by
  intro line
  obtain ⟨members, members_eq, -⟩ := event.toJson_eq_object
  obtain ⟨inner, inner_eq⟩ := Json.chars_object members
  have braces : (Event.format.text event).toList = '{' :: (inner ++ ['}']) := by
    rw [← inner_eq, ← members_eq]
    exact String.toList_ofList
  have trimmed : Text.trim line = (Event.format.text event).toList := by
    rw [braces]
    simp only [line, braces]
    exact Text.trim_blanks blank (by decide) (by decide) inner
  have parsed : Json.parse? (Event.format.text event) = some event.toJson :=
    Json.parse_render (Event.plain_toJson fits steady)
  constructor
  · rw [isSkipped, trimmed, braces]
    rfl
  · rw [stepOf?, textOf, trimmed, String.ofList_toList, Step.ofText?, parsed, Option.bind_some,
      Step.ofJson_event fits steady]

end Replay

end Panes
