import Panes.Binary.Shortest
import Panes.Json

/-!
# Spans

A finished span is written as one JSON object. Times are nanoseconds from the Unix epoch, which may
lie after them; what cannot be shown (a start before the epoch, a negative length) is shown as zero,
and what is too great as the greatest number of 64 bits.
-/

namespace Panes.Trace

/-- A double. -/
structure Real where
  /-- The sign is minus. -/
  negative : Bool
  /-- The magnitude, unless it is infinite or no number at all. -/
  magnitude : Option Binary.Dyadic
  deriving DecidableEq, Repr

/-- A value that stands for no number. -/
def Real.undefined : Real := ⟨false, none⟩

/-- The double nearest to a number. -/
def Real.ofNumber : Json.Number → Real
  | .int value => ⟨value < 0, Binary.Format.double.round ⟨value.natAbs, 1⟩⟩
  | .decimal value => ⟨value.negative, value.double?⟩

/-- A double with its shortest digits, and `null` for what is not finite. -/
def Real.toJson (real : Real) : Json :=
  match real.magnitude with
  | some magnitude =>
    let scientific := Binary.Format.double.shortest magnitude
    .number (.decimal ⟨real.negative, scientific.digits, scientific.exponent⟩)
  | none => .null

/-- The value of an attribute. -/
inductive Value
  /-- A truth value. -/
  | bool (value : Bool)
  /-- An integer. -/
  | int (value : Int64)
  /-- A double. -/
  | real (value : Real)
  /-- A text. -/
  | string (value : String)
  /-- Truth values. -/
  | bools (values : List Bool)
  /-- Integers. -/
  | ints (values : List Int64)
  /-- Doubles. -/
  | reals (values : List Real)
  /-- Texts. -/
  | strings (values : List String)
  deriving DecidableEq, Repr

/-- The value of an attribute as a JSON value of the same type. -/
def Value.toJson : Value → Json
  | bool value => .bool value
  | int value => .int value.toInt
  | real value => value.toJson
  | string value => .string value
  | bools values => .array (values.map .bool)
  | ints values => .array (values.map fun value => .int value.toInt)
  | reals values => .array (values.map Real.toJson)
  | strings values => .array (values.map .string)

/-- A named value. -/
structure Attribute where
  /-- The name. -/
  key : String
  /-- The value. -/
  value : Value
  deriving DecidableEq, Repr

/-- The attributes as an object. Of several with one name the last one counts. -/
def attributesJson (attributes : List Attribute) : Json :=
  .object <| attributes.foldr
    (fun entry members =>
      if members.any (·.1 == entry.key) then members
      else (entry.key, entry.value.toJson) :: members)
    []

/-- Something that happened during a span. -/
structure Moment where
  /-- What happened. -/
  name : String
  /-- When it happened. -/
  time : Int
  /-- Its attributes. -/
  attributes : List Attribute
  deriving DecidableEq, Repr

/-- How a span ended. -/
inductive Status
  /-- Nothing was said. -/
  | unset
  /-- All went well. -/
  | ok
  /-- Something went wrong. -/
  | error (description : String)
  deriving DecidableEq, Repr

/-- A status as a value. -/
def Status.toJson : Status → Json
  | unset => .string "unset"
  | ok => .string "ok"
  | error description => .object [("error", .string description)]

/-- A finished span. -/
structure Span where
  /-- The trace it belongs to. -/
  traceId : Nat
  /-- Its own number. -/
  spanId : Nat
  /-- The number of the span around it, and zero for none. -/
  parentSpanId : Nat
  /-- What was done. -/
  name : String
  /-- When it began. -/
  start : Int
  /-- When it ended. -/
  finish : Int
  /-- How it ended. -/
  status : Status
  /-- Its attributes. -/
  attributes : List Attribute
  /-- What happened during it. -/
  moments : List Moment
  deriving DecidableEq, Repr

/-- A number in hexadecimal with leading zeros. -/
def hexadecimal (width number : Nat) : String :=
  let digits := Nat.toDigits 16 number
  String.ofList (List.replicate (width - digits.length) '0' ++ digits)

/-- A number as it is shown: zero if negative, and at most the greatest of 64 bits. -/
def clamp (number : Int) : Nat := min number.toNat Json.maxUnsigned

/-- Whole microseconds from one time to another. -/
def microseconds (start finish : Int) : Nat := clamp ((finish - start).tdiv 1000)

/-- Something that happened, seen from the start of its span. -/
def Moment.toJson (moment : Moment) (start : Int) : Json :=
  .object [("name", .string moment.name),
    ("offset_us", .nat (microseconds start moment.time)),
    ("attributes", attributesJson moment.attributes)]

/-- A span as a value. -/
def Span.toJson (service : String) (span : Span) : Json :=
  .object <|
    [("service", .string service),
      ("trace_id", .string (hexadecimal 32 span.traceId)),
      ("span_id", .string (hexadecimal 16 span.spanId))]
      ++ (if span.parentSpanId = 0 then []
        else [("parent_span_id", .string (hexadecimal 16 span.parentSpanId))])
      ++ [("name", .string span.name),
        ("start_unix_nano", .nat (clamp span.start)),
        ("duration_us", .nat (microseconds span.start span.finish)),
        ("status", span.status.toJson),
        ("attributes", attributesJson span.attributes),
        ("events", .array (span.moments.map (·.toJson span.start)))]

end Panes.Trace
