import Switchboard.Json.Decode
import Switchboard.Text.LowerCase

/-!
# Fields and schemas

A schema declares the fields of an object: for each name the type that its value is to have, a
default for when it is absent, and, for objects and arrays, what is inside. `Field.type` says which
type a declaration means; `Field.decode` and `Field.toJson` read and write declarations.
-/

namespace Switchboard

/-- The declaration of one value. -/
structure Field where
  /-- The name of the type, as it is written. -/
  typeName : Option String := none
  /-- The value to take when none is given; it may be `null`. -/
  fallback : Option Json := none
  /-- The fields of an object. -/
  fields : Option (List (String × Field)) := none
  /-- The items of an array. -/
  item : Option Field := none
  deriving Inhabited

/-- Fields by name, in the order of their declaration. -/
abbrev Schema := Entries Field

/-- What a field declaration asks for. -/
inductive FieldType where
  | string
  | number
  | int
  | array
  | object
  | date
  /-- A type known by a parser that was registered for its name. -/
  | custom (name : String)
  | untyped
  deriving DecidableEq, Repr

namespace FieldType

/-- The type of a name. The names of the types known here are taken in any letter case. -/
def ofName (name : String) : FieldType :=
  match Text.lowerCase name with
  | "string" => string
  | "number" | "double" | "float" => number
  | "int" | "int64" => int
  | "array" => array
  | "object" => object
  | "date" => date
  | _ => custom name

end FieldType

namespace Field

/-- The type of the field. Without a name, declared fields mean an object and a declared item an
array. -/
def type (f : Field) : FieldType :=
  match f.typeName with
  | some name => .ofName name
  | none =>
    if f.fields.isSome then .object
    else if f.item.isSome then .array
    else .untyped

/-! ## Reading -/

/-- Sets the part of a declaration that a key names; other keys are passed over. What is inside the
value is decoded on demand. -/
def put (f : Field) (key : String) (value : Json) (fields : Unit → Decoded (Option Schema))
    (item : Unit → Decoded (Option Field)) : Decoded Field :=
  match key with
  | "type" => do
    let name ← Json.decodeOptional Json.decodeString value
    return { f with typeName := name }
  | "default" => .ok { f with fallback := some value }
  | "fields" => do
    let fields ← fields ()
    return { f with fields }
  | "item" => do
    let item ← item ()
    return { f with item }
  | _ => .ok f

mutual
/-- The declaration that a value is: an object of its parts or the array of them. -/
def decode : Json → Decoded Field
  | .object members => decodeParts {} members
  | .array items => decodeItems items.length {} Record.field.fields items
  | value => .error (.wrongKind value (.record .field))

/-- Reads parts by name into a declaration. -/
def decodeParts (f : Field) : List (String × Json) → Decoded Field
  | [] => .ok f
  | (key, value) :: rest => do
    let f ← f.put key value (fun _ => decodeFields? value) (fun _ => decodeItem? value)
    decodeParts f rest

/-- Reads parts by position into a declaration; `count` is the length of the whole array. -/
def decodeItems (count : Nat) (f : Field) : List String → List Json → Decoded Field
  | _, [] => .ok f
  | [], _ :: _ => .error (.tooLong count)
  | key :: keys, value :: rest => do
    let f ← f.put key value (fun _ => decodeFields? value) (fun _ => decodeItem? value)
    decodeItems count f keys rest

/-- The declared fields of an object, or nothing. -/
def decodeFields? : Json → Decoded (Option Schema)
  | .null => .ok none
  | .object members => do
    let schema ← decodeSchemaMembers members
    return some schema
  | value => .error (.wrongKind value .map)

/-- The declared item of an array, or nothing. -/
def decodeItem? : Json → Decoded (Option Field)
  | .null => .ok none
  | .object members => do
    let f ← decodeParts {} members
    return some f
  | .array items => do
    let f ← decodeItems items.length {} Record.field.fields items
    return some f
  | value => .error (.wrongKind value (.record .field))

/-- The fields of a schema, in order. -/
def decodeSchemaMembers : List (String × Json) → Decoded Schema
  | [] => .ok []
  | (key, value) :: rest => do
    let f ← decode value
    let others ← decodeSchemaMembers rest
    return (key, f) :: others
end

/-! ## Writing -/

mutual
/-- The declaration as an object of the parts that are there. -/
def toJson : Field → Json
  | ⟨typeName, fallback, fields, item⟩ =>
    Json.ofOptional
      [("type", typeName.map Json.string), ("default", fallback), ("fields", fieldsToJson fields),
        ("item", itemToJson item)]

/-- Declared fields as an object. -/
def fieldsToJson : Option (List (String × Field)) → Option Json
  | none => none
  | some fields => some (.object (schemaMembers fields))

/-- A declared item as an object. -/
def itemToJson : Option Field → Option Json
  | none => none
  | some f => some f.toJson

/-- The fields of a schema as members of an object. -/
def schemaMembers : List (String × Field) → List (String × Json)
  | [] => []
  | (key, f) :: rest => (key, f.toJson) :: schemaMembers rest
end

end Field

namespace Schema

/-- The schema that an object declares. -/
def decode : Json → Decoded Schema
  | .object members => Field.decodeSchemaMembers members
  | value => .error (.wrongKind value .map)

/-- The schema as an object. -/
def toJson (schema : Schema) : Json := .object (Field.schemaMembers schema)

end Schema

end Switchboard
