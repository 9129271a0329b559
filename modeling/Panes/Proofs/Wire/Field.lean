import Panes.Proofs.Json.Token
import Panes.Wire.Field
import Mathlib.Data.List.Basic

/-!
# Reading written fields

What is written field by field is read field by field. A structure is written with its fields in
the order of their names, each at most once, so all of them are seen; a tagged value has one tag,
as no field of a form is called like it. With these facts the readers are evaluated on what the
writers give, form by form.
-/

namespace Panes.Wire

open Json

/-! ## Plain values -/

section

variable {α : Type} {depth : Nat}

@[simp]
theorem plainMembers_append (front back : Fields) :
    PlainMembers depth (front ++ back) ↔ PlainMembers depth front ∧ PlainMembers depth back := by
  induction front with
  | nil => simp [PlainMembers]
  | cons field front ih => simp [PlainMembers, ih, and_assoc]

@[simp]
theorem plain_tagged (tag name : String) (fields : Fields) :
    (tagged tag name fields).Plain (depth + 1) ↔ PlainMembers depth fields := by
  simp [tagged, Plain, PlainMembers]

@[simp]
theorem plainMembers_optionalField (name : String) (write : α → Json) (value : Option α) :
    PlainMembers depth (optionalField name write value) ↔
      ∀ present ∈ value, (write present).Plain depth := by
  cases value <;> simp [optionalField, PlainMembers]

@[simp]
theorem plain_ofNullable (write : α → Json) (value : Option α) :
    (ofNullable write value).Plain depth ↔ ∀ present ∈ value, (write present).Plain depth := by
  cases value <;> simp [ofNullable, Plain]

@[simp]
theorem plain_ofList (write : α → Json) (values : List α) :
    (ofList write values).Plain (depth + 1) ↔ ∀ value ∈ values, (write value).Plain depth := by
  rw [ofList, Plain]
  induction values with
  | nil => simp [PlainElements]
  | cons value values ih => simp [PlainElements, ih]

@[simp]
theorem plain_ofString (text : String) : (ofString text).Plain depth := trivial

@[simp]
theorem plain_ofInt64 (value : Int64) : (ofInt64 value).Plain depth := by
  have least := value.le_toInt
  have greatest := value.toInt_lt
  simp only [ofInt64, int, Plain, IsWord, maxMagnitude, maxUnsigned]
  omega

@[simp]
theorem plain_ofInt32 (value : Int32) : (ofInt32 value).Plain depth := by
  have least := value.le_toInt
  have greatest := value.toInt_lt
  simp only [ofInt32, int, Plain, IsWord, maxMagnitude, maxUnsigned]
  omega

@[simp]
theorem plain_nat (number : Nat) : (nat number).Plain depth ↔ number ≤ maxUnsigned := by
  simp only [nat, Plain, IsWord, maxMagnitude]
  omega

end

/-! ## Numbers and lists -/

@[simp]
theorem int64_ofInt64 (value : Int64) : int64? (ofInt64 value) = some value := by
  have least := value.le_toInt
  have greatest := value.toInt_lt
  simp only [int64?, ofInt64, int, integer?]
  rw [if_pos (by omega), Option.map_some, Int64.ofInt_toInt]

@[simp]
theorem int32_ofInt32 (value : Int32) : int32? (ofInt32 value) = some value := by
  have least := value.le_toInt
  have greatest := value.toInt_lt
  simp only [int32?, ofInt32, int, integer?]
  rw [if_pos (by omega), Option.map_some, Int32.ofInt_toInt]

theorem unsigned_nat {number : Nat} (small : number ≤ maxUnsigned) :
    unsigned? (nat number) = some number := by
  simp only [unsigned?, nat, integer?]
  rw [if_pos (by simp only [maxUnsigned] at small; omega)]
  rfl

/-- Only numbers of 64 bits are read. -/
theorem le_of_unsigned {json : Json} {number : Nat} (read : unsigned? json = some number) :
    number ≤ maxUnsigned := by
  obtain ⟨value, integer, rfl⟩ := Option.map_eq_some_iff.mp read
  unfold integer? at integer
  split at integer
  · split at integer
    · cases integer
      simp only [maxUnsigned]
      omega
    · cases integer
  · cases integer

theorem list_ofList {α : Type} {write : α → Json} {read : Json → Option α}
    (back : ∀ value, read (write value) = some value) (values : List α) :
    list? read (ofList write values) = some values := by
  rw [ofList, list?]
  induction values with
  | nil => rfl
  | cons value values ih =>
    rw [List.map_cons, List.mapM_cons, back, ih]
    rfl

@[simp]
theorem string_string (text : String) : string? (.string text) = some text := rfl

@[simp]
theorem string_ofString (text : String) : string? (ofString text) = some text := rfl

@[simp]
theorem nullable_present {α : Type} {json : Json} (present : json ≠ .null)
    (read : Json → Option α) : nullable? read json = (read json).map some := by
  rw [nullable?]
  exact present

theorem nullable_ofNullable {α : Type} {write : α → Json} {read : Json → Option α}
    (back : ∀ value, read (write value) = some value) (present : ∀ value, write value ≠ .null)
    (value : Option α) : nullable? read (ofNullable write value) = some value := by
  cases value with
  | none => rfl
  | some value => rw [ofNullable, nullable_present (present value), back, Option.map_some]

@[simp]
theorem nullable_ofNullable_ofString (text : Option String) :
    nullable? string? (ofNullable ofString text) = some text :=
  nullable_ofNullable string_ofString (fun _ => nofun) text

/-! ## Fields -/

/-- Fields in the order of their names are all seen. -/
theorem fields_object {names : List String} (distinct : names.Nodup) {fields : Fields}
    (ordered : (fields.map (·.1)).Sublist names) :
    fields? names (.object fields) = some fields := by
  have known : fields.filter (fun member => names.contains member.1) = fields := by
    rw [List.filter_eq_self]
    intro field member
    simpa using ordered.subset (List.mem_map_of_mem member)
  rw [fields?, known, if_pos (distinct.sublist ordered)]

theorem name_of_optionalField {α : Type} {name : String} {write : α → Json} {value : Option α}
    {field : String × Json} (member : field ∈ optionalField name write value) : field.1 = name := by
  cases value with
  | none => cases member
  | some value => rw [List.mem_singleton.mp member]

/-- The form of a tagged value is found, if no field is called like the tag. -/
theorem tagged_tagged {tag name : String} {forms : List String} {mode : Mode} {fields : Fields}
    (form : name ∈ forms) (apart : ∀ field ∈ fields, field.1 ≠ tag) :
    tagged? tag forms mode (tagged tag name fields) = some (name, .object fields) := by
  have others : fields.filter (·.1 == tag) = [] := by
    rw [List.filter_eq_nil_iff]
    intro field member
    simpa using apart field member
  have rest : fields.filter (·.1 != tag) = fields := by
    rw [List.filter_eq_self]
    intro field member
    simpa using apart field member
  simp [tagged?, tagged, valuesOf, others, rest, tagName?, form]

@[simp]
theorem bool_bool (value : Bool) : bool? (.bool value) = some value := rfl

@[simp]
theorem unit_object {α : Type} (value : α) : unit? value (.object []) = some value := rfl

/-- A plain name stands for its value, if no two values have the same name. -/
theorem name_string {α : Type} {values : List α} {name : α → String} (mode : Mode) {value : α}
    (known : value ∈ values) (distinct : ∀ other, name other = name value → other = value) :
    name? (values.map fun value => (name value, value)) mode (.string (name value)) =
      some value := by
  rw [name?]
  induction values with
  | nil => cases known
  | cons first values ih =>
    rw [List.map_cons, List.lookup_cons]
    by_cases same : name first = name value
    · simp [distinct first same]
    · have different : (name value == name first) = false := by simpa using Ne.symm same
      have later : value ∈ values := by
        rcases List.mem_cons.mp known with rfl | later
        · exact absurd rfl same
        · exact later
      rw [different]
      exact ih later

namespace Fields

variable {α : Type} {name key : String} {json : Json} {fields : Fields} {read : Json → Option α}

@[simp]
theorem required_cons : required ((key, json) :: fields) name read =
    if name = key then read json else fields.required name read := by
  by_cases same : name = key
  · simp [required, same]
  · have different : (name == key) = false := by simpa using same
    simp [required, List.lookup_cons, different, same]

@[simp]
theorem withDefault_cons {default : α} : withDefault ((key, json) :: fields) name default read =
    if name = key then read json else fields.withDefault name default read := by
  by_cases same : name = key
  · simp [withDefault, same]
  · have different : (name == key) = false := by simpa using same
    simp [withDefault, List.lookup_cons, different, same]

@[simp]
theorem optional_cons : optional ((key, json) :: fields) name read =
    if name = key then nullable? read json else fields.optional name read :=
  withDefault_cons

@[simp]
theorem optional_nil : optional [] name read = some none := rfl

theorem optional_append {front back : Fields} (absent : ∀ field ∈ front, field.1 ≠ name) :
    optional (front ++ back) name read = optional back name read := by
  induction front with
  | nil => rfl
  | cons field front ih =>
    have different : name ≠ field.1 := (absent field (by simp)).symm
    rw [List.cons_append, optional_cons, if_neg different]
    exact ih fun other member => absent other (by simp [member])

/-- A field that is left out when its value is absent is read as it was written. -/
theorem optional_optionalField {write : α → Json} (back : ∀ value, read (write value) = some value)
    (present : ∀ value, write value ≠ .null) (value : Option α) :
    optional (optionalField name write value) name read = some value := by
  cases value with
  | none => rfl
  | some value =>
    rw [optionalField, optional_cons, if_pos rfl, nullable_present (present value), back,
      Option.map_some]

/-- A required field is what its reader gives. -/
theorem of_required {fits : α → Prop} (reader : ∀ {json value}, read json = some value → fits value)
    {value : α} (found : required fields name read = some value) : fits value := by
  obtain ⟨json, -, given⟩ := Option.bind_eq_some_iff.mp found
  exact reader given

end Fields

end Panes.Wire
