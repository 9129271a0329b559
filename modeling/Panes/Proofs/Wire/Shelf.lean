import Panes.Proofs.Wire.Pane
import Panes.Wire.Shelf

/-!
# Commands and responses of the content store read back

The fields of an order are read back under its name, whatever comes after them; so the trace context
may stand behind them. Responses hold counts, and are read back if these are numbers of 64 bits.
-/

namespace Panes.Shelf

open Json Wire

namespace TraceContext

@[simp]
theorem plain_toJson {depth : Nat} (context : TraceContext) :
    context.toJson.Plain (depth + 1) := by
  simp [toJson, Plain, PlainMembers]

@[simp]
theorem ofJson_toJson (context : TraceContext) : ofJson? context.toJson = some context := by
  simp [ofJson?, toJson, fieldNames, fields_object]

@[simp]
theorem toJson_ne_null (context : TraceContext) : context.toJson ≠ .null := nofun

theorem members_toJson (context : TraceContext) :
    ∀ member ∈ context.toJson.members, member.1 ∈ fieldNames := by
  simp [toJson, members, fieldNames]

end TraceContext

@[simp]
theorem Place.plain_toJson {depth : Nat} (place : Place) : place.toJson.Plain depth := trivial

@[simp]
theorem Place.ofJson_toJson (mode : Mode) (place : Place) :
    Place.ofJson? mode place.toJson = some place := by
  refine name_string mode ?_ ?_
  · cases place <;> decide
  · intro other
    cases other <;> cases place <;> simp [Place.name]

/-! ## Orders -/

namespace Order

theorem plain_fields {depth : Nat} (order : Order) : PlainMembers (depth + 1) order.fields := by
  cases order <;> simp [fields, notesFields, PlainMembers, Plain]

theorem name_mem_tags (order : Order) : order.name ∈ tags := by
  cases order <;> simp [name, tags]

theorem map_fields (order : Order) : order.fields.map (·.1) = fieldNames order.name := by
  cases order <;> rfl

/-- No order has a field called like one of what stands beside its fields. -/
theorem field_apart (order : Order) :
    ∀ field ∈ order.fields, field.1 ∉ ["action", "command", "trace_context"] := by
  cases order <;> simp [fields, notesFields]

/-- An order is read back from its fields, whatever comes after them. -/
theorem ofFields_fields (mode : Mode) (order : Order) (others : Fields) :
    ofFields? mode order.name (order.fields ++ others) = some order := by
  have notes := list_ofList NoteId.ofJson_toJson
  have filters := list_ofList FilterId.ofJson_toJson
  cases order <;> simp [ofFields?, name, fields, notesFields, notes, filters]

end Order

/-! ## Commands -/

namespace Command

theorem plain_fields {depth : Nat} (command : Command) :
    PlainMembers (depth + 1) command.fields := by
  simp [fields, PlainMembers, Plain, Order.plain_fields]

@[simp]
theorem plain_toJson {depth : Nat} (command : Command) : command.toJson.Plain (depth + 2) :=
  command.plain_fields

/-- No field of a command is called like the tag of an action. -/
theorem field_ne_action (command : Command) : ∀ field ∈ command.fields, field.1 ≠ "action" := by
  intro field member
  simp only [fields, List.mem_cons, List.mem_append] at member
  rcases member with rfl | own | last
  · simp
  · exact fun same => command.order.field_apart field own (by simp [same])
  · simp [name_of_optionalField last]

@[simp]
theorem ofJson_toJson (mode : Mode) (command : Command) :
    ofJson? mode command.toJson = some command := by
  obtain ⟨order, context⟩ := command
  let others := optionalField "trace_context" TraceContext.toJson context
  -- Only the form is found with the tag; the context is a field like those of the order.
  have found : tagged? "command" Order.tags mode (.object (fields ⟨order, context⟩)) =
      some (order.name, .object (order.fields ++ others)) := by
    refine tagged_tagged order.name_mem_tags fun field member same => ?_
    rcases List.mem_append.mp member with own | own
    · exact order.field_apart field own (by simp [same])
    · simp [name_of_optionalField own] at same
  have distinct : (Order.fieldNames order.name ++ ["trace_context"]).Nodup := by
    cases order <;> simp [Order.fieldNames, Order.name]
  have ordered : ((order.fields ++ others).map (·.1)).Sublist
      (Order.fieldNames order.name ++ ["trace_context"]) := by
    rw [List.map_append, order.map_fields]
    refine (List.Sublist.refl _).append ?_
    cases context <;> simp [others, optionalField]
  have traced : Fields.optional (order.fields ++ others) "trace_context" TraceContext.ofJson? =
      some context := by
    rw [Fields.optional_append fun field member same =>
      order.field_apart field member (by simp [same])]
    exact Fields.optional_optionalField TraceContext.ofJson_toJson TraceContext.toJson_ne_null
      context
  simp only [ofJson?, toJson, found, fields_object distinct ordered, order.ofFields_fields, traced,
    Option.bind_eq_bind, Option.bind_some, Option.pure_def]

end Command

/-! ## Responses -/

namespace Response

/-- The count has 64 bits, if there is one. -/
def Fits : Response → Prop
  | notesDeleted count | notesCut count | notesPasted count | notesMoved count =>
    count ≤ maxUnsigned
  | _ => True

theorem plain_toJson {depth : Nat} {response : Response} (fits : response.Fits) :
    response.toJson.Plain (depth + 1) := by
  cases response with
  | notesDeleted | notesCut | notesPasted | notesMoved =>
    simpa [toJson, PlainMembers, Fits] using fits
  | _ => simp [toJson, PlainMembers, Plain]

theorem ofJson_toJson (mode : Mode) {response : Response} (fits : response.Fits) :
    ofJson? mode response.toJson = some response := by
  cases response with
  | notesDeleted | notesCut | notesPasted | notesMoved =>
    have unsigned := unsigned_nat fits
    simp [ofJson?, toJson, tags, tagged_tagged, fields_object, unsigned]
  | _ => simp [ofJson?, toJson, tags, tagged_tagged, fields_object]

/-- Only numbers of 64 bits are read. -/
theorem fits_of_ofJson {mode : Mode} {json : Json} {response : Response}
    (read : ofJson? mode json = some response) : response.Fits := by
  simp only [ofJson?, Option.bind_eq_bind, Option.pure_def, Option.bind_eq_some_iff] at read
  obtain ⟨⟨name, body⟩, -, read⟩ := read
  split at read <;> simp only [Option.bind_eq_some_iff, Option.some_inj, reduceCtorEq] at read
  case h_1 | h_2 | h_3 | h_4 =>
    obtain ⟨count, ⟨fields, -, unsigned⟩, rfl⟩ := read
    exact Fields.of_required le_of_unsigned unsigned
  case h_5 | h_6 =>
    obtain ⟨bookId, -, rfl⟩ := read
    trivial
  case h_7 | h_9 =>
    obtain ⟨fields, -, field, -, rfl⟩ := read
    trivial
  case h_8 | h_10 =>
    obtain ⟨fields, -, first, -, second, -, rfl⟩ := read
    trivial

end Response

end Panes.Shelf
