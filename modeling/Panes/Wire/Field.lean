import Panes.Json

/-!
# Fields of written values

Values are written as JSON. A structure is an object with a member per field, or a list with the
fields in order; fields that are not known are overlooked, and a known field may stand only once. A
value of a type with several forms carries a tag, which names the form and stands beside the fields
of the form, or before them in a list.

A value that stands inside a tagged one has been set aside while the tag was looked for. Set-aside
values may give a tag by its number and a plain name as an object with an empty object.
-/

namespace Panes.Wire

/-- How a value comes to its reader. -/
inductive Mode
  /-- Straight from the text. -/
  | direct
  /-- From inside a tagged value. -/
  | setAside
  deriving DecidableEq, Repr

/-- A text. -/
def string? : Json → Option String
  | .string value => some value
  | _ => none

/-- A truth value. -/
def bool? : Json → Option Bool
  | .bool value => some value
  | _ => none

/-- An integer within bounds, both included. -/
def integer? (least greatest : Int) : Json → Option Int
  | .number (.int value) => if least ≤ value ∧ value ≤ greatest then some value else none
  | _ => none

/-- A signed integer of 64 bits. -/
def int64? (json : Json) : Option Int64 :=
  (integer? (-0x8000000000000000) 0x7fffffffffffffff json).map Int64.ofInt

/-- A signed integer of 32 bits. -/
def int32? (json : Json) : Option Int32 :=
  (integer? (-0x80000000) 0x7fffffff json).map Int32.ofInt

/-- An unsigned integer of 64 bits. -/
def unsigned? (json : Json) : Option Nat := (integer? 0 0xffffffffffffffff json).map Int.toNat

/-- A list, read element by element. -/
def list? {α : Type} (read : Json → Option α) : Json → Option (List α)
  | .array elements => elements.mapM read
  | _ => none

/-- A value, or `null` for none. -/
def nullable? {α : Type} (read : Json → Option α) : Json → Option (Option α)
  | .null => some none
  | json => (read json).map some

/-- The fields that a written value gives. -/
abbrev Fields := List (String × Json)

/-- The fields with these names, in this order, that a value gives. -/
def fields? (names : List String) : Json → Option Fields
  | .object members =>
    let known := members.filter fun member => names.contains member.1
    if (known.map (·.1)).Nodup then some known else none
  | .array elements =>
    if elements.length ≤ names.length then some (names.zip elements) else none
  | _ => none

namespace Fields

/-- The value of a field that has to be there. -/
def required {α : Type} (fields : Fields) (name : String) (read : Json → Option α) : Option α :=
  (fields.lookup name).bind read

/-- The value of a field that has a default. -/
def withDefault {α : Type} (fields : Fields) (name : String) (default : α)
    (read : Json → Option α) : Option α :=
  match fields.lookup name with
  | some json => read json
  | none => some default

/-- The value of a field that may be absent or `null`. -/
def optional {α : Type} (fields : Fields) (name : String) (read : Json → Option α) :
    Option (Option α) :=
  fields.withDefault name none (nullable? read)

end Fields

/-- The form that a tag names. -/
def tagName? (forms : List String) (mode : Mode) : Json → Option String
  | .string name => if forms.contains name then some name else none
  | .number (.int number) =>
    if mode = .setAside ∧ 0 ≤ number then forms[number.toNat]? else none
  | _ => none

/-- The form of a tagged value, and the value without the tag. -/
def tagged? (tag : String) (forms : List String) (mode : Mode) : Json → Option (String × Json)
  | .object members =>
    match Json.valuesOf tag members with
    | [value] => do
      let name ← tagName? forms mode value
      return (name, .object (members.filter (·.1 != tag)))
    | _ => none
  | .array (value :: elements) => do
    let name ← tagName? forms mode value
    return (name, .array elements)
  | _ => none

/-- A form without fields. Further members are overlooked, further elements are not. -/
def unit? {α : Type} (value : α) (json : Json) : Option α := (fields? [] json).map fun _ => value

/-- A plain name out of a list of names, with the value it stands for. -/
def name? {α : Type} (names : List (String × α)) (mode : Mode) : Json → Option α
  | .string name => names.lookup name
  | .object [(name, .null)] => names.lookup name
  | .object [(name, .object [])] => if mode = .setAside then names.lookup name else none
  | _ => none

/-- A text as a value. -/
def ofString (value : String) : Json := .string value

/-- A value that may be absent, as `null` when it is. -/
def ofNullable {α : Type} (write : α → Json) : Option α → Json
  | some value => write value
  | none => .null

/-- A field that is left out when its value is absent. -/
def optionalField {α : Type} (name : String) (write : α → Json) : Option α → Fields
  | some value => [(name, write value)]
  | none => []

/-- A list, written element by element. -/
def ofList {α : Type} (write : α → Json) (values : List α) : Json := .array (values.map write)

/-- A tagged value. -/
def tagged (tag name : String) (fields : Fields) : Json := .object ((tag, .string name) :: fields)

/-- A signed integer of 64 bits as a value. -/
def ofInt64 (value : Int64) : Json := .int value.toInt

/-- A signed integer of 32 bits as a value. -/
def ofInt32 (value : Int32) : Json := .int value.toInt

end Panes.Wire
