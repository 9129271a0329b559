import Panes.Json.Number

/-!
# JSON values

An object keeps its members in the order of the text, repeated keys included.
-/

namespace Panes

/-- A JSON value. -/
inductive Json
  /-- The value `null`. -/
  | null
  /-- A truth value. -/
  | bool (value : Bool)
  /-- A number. -/
  | number (value : Json.Number)
  /-- A text. -/
  | string (value : String)
  /-- A list of values. -/
  | array (elements : List Json)
  /-- Named values. -/
  | object (members : List (String × Json))
  deriving Inhabited, Repr

namespace Json

/-- An integer as a value. -/
def int (value : Int) : Json := number (.int value)

/-- A natural number as a value. -/
def nat (value : Nat) : Json := number (.int value)

/-- The values of a key among members, in order. -/
def valuesOf (key : String) (members : List (String × Json)) : List Json :=
  (members.filter (·.1 == key)).map (·.2)

/-- The value of a key of an object: the last one, when the key is repeated. -/
def get? (key : String) : Json → Option Json
  | object members => (valuesOf key members).getLast?
  | _ => none

end Json

end Panes
