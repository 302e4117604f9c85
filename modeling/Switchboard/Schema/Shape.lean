import Switchboard.Calendar.Instant
import Switchboard.Json.Plain
import Switchboard.Schema.TypeParser

/-!
# Shaping data by a schema

`Schema.shape` makes an object fit a schema; it is applied to what comes in with a request and to
what goes out with a response.

* A member that is truthy and declared is converted to the type of its field.
* A member that is truthy and not declared is dropped.
* A member that is not truthy stays as it is, declared or not.
* A field that is declared with a default and has no member is added with its default, after the
  members, in the order of the schema.

`shapeValue` does the same for a single value. No conversion fails: a value that cannot be a number
or a date becomes `null`, and a value that its parser refuses stays as it is.
-/

namespace Switchboard

/-- A number as it is; from any other value the number that `read` finds in its plain text. -/
def coerceNumber (read : List Char → Option Rounded) (value : Json) : Json :=
  match value with
  | .number n => .number n
  | other =>
    match read other.plainText with
    | some n => .ofRounded n
    | none => .null

/-- The date that a text names or that a number of milliseconds since 1970 is, in UTC; `null` for
what is no date. -/
def coerceDate (value : Json) : Json :=
  let instant : Option Instant :=
    match value with
    | .string s => Instant.read? s.toList
    | .number (.integer n) => Instant.ofMillis? n
    | .number (.double x) => Instant.ofMillis? x.truncate
    | _ => none
  match instant with
  | some i => .string (String.ofList i.text)
  | none => .null

/-- A string as it is, and the plain text of every other value. -/
def coerceString (value : Json) : Json :=
  match value with
  | .string s => .string s
  | other => .string (String.ofList other.plainText)

namespace Schema

/-- What becomes of a member of an object: its value in the shaped object, or nothing. The third
argument shapes the value by its field. -/
def shapeMember (schema : Schema) (key : String) (value : Json) (shape : Field → Json) :
    Option (String × Json) :=
  if value.isTruthy then (Entries.get? schema key).map fun f => (key, shape f)
  else some (key, value)

/-- The fields with a default that have no member yet, each with its default. -/
def missingDefaults (schema : Schema) (members : Entries Json) : Entries Json :=
  schema.filterMap fun (key, f) =>
    if Entries.has members key then none else f.fallback.map fun value => (key, value)

/-- Shapes an object, given the shaping of the values of its members. -/
def shapeWith (schema : Schema) (members : Entries Json)
    (shape : (entry : String × Json) → entry ∈ members → Field → Json) : Entries Json :=
  (members.attach.filterMap fun ⟨entry, h⟩ =>
    shapeMember schema entry.1 entry.2 (shape entry h)) ++ missingDefaults schema members

end Schema

/-- Shapes one value by the declaration of a field. -/
def shapeValue (registry : Registry) (value : Json) (f : Field) : Json :=
  if value.isTruthy then
    match f.type with
    | .string => coerceString value
    | .number => coerceNumber readNumber value
    | .int => coerceNumber readWhole value
    | .date => coerceDate value
    | .untyped => value
    | .array =>
      match value, f.item with
      | .array items, some item =>
        .array (items.attach.map fun ⟨w, _⟩ => shapeValue registry w item)
      | other, _ => other
    | .object =>
      match value, f.fields with
      | .object members, some fields =>
        .object (Schema.shapeWith fields members fun entry _ => shapeValue registry entry.2)
      | other, _ => other
    | .custom name =>
      match registry.find? name with
      | none => value
      | some parser =>
        match parser.parse value fun w _ => shapeValue registry w with
        | .parsed result => result
        | _ => value
  else value
termination_by value.size
decreasing_by
  · exact Json.size_lt_of_mem_array ‹_›
  · exact Json.size_lt_of_mem_object ‹_›
  · assumption

namespace Schema

/-- The object that data becomes under a schema. -/
def shape (registry : Registry) (schema : Schema) (data : Entries Json) : Entries Json :=
  data.filterMap (fun (key, value) => shapeMember schema key value (shapeValue registry value))
    ++ missingDefaults schema data

/-- Shaping by way of the members is shaping. -/
theorem shapeWith_eq_shape (registry : Registry) (schema : Schema) (data : Entries Json) :
    shapeWith schema data (fun entry _ => shapeValue registry entry.2) =
      shape registry schema data := by
  unfold shapeWith shape
  congr 1
  conv => rhs; rw [← List.attach_map_subtype_val data]
  rw [List.filterMap_map]
  rfl

end Schema

end Switchboard
