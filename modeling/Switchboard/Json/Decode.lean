import Switchboard.Json.Printer

/-!
# Decoding values

Documents and handler arguments are decoded from JSON values. `DecodeError` lists what can be wrong
with a value and `DecodeError.message` words it; the decoders of the simple types are here, those
of the parts of a document beside their types.
-/

namespace Switchboard

/-- The parts of a document that are written as an object or as the array of its fields. -/
inductive Record where
  | document
  | operation
  | target
  | inputs
  | reply
  | field
  deriving DecidableEq, Repr

namespace Record

/-- The part as it is called in a message. -/
def name : Record → String
  | document => "struct RouteDefinitionDocument"
  | operation => "struct MethodSpec"
  | target => "struct HandlerRef"
  | inputs => "struct Params"
  | reply => "struct ResponseSpec"
  | field => "struct FieldSpec"

/-- The names of the fields, in the order in which an array lists them. -/
def fields : Record → List String
  | document => ["version", "routes"]
  | operation => ["handler", "params", "response"]
  | target => ["group", "action", "mapping"]
  | inputs => ["query", "body", "header", "url"]
  | reply => ["schema"]
  | field => ["type", "default", "fields", "item"]

end Record

/-- What a decoder was looking for. -/
inductive Wanted where
  | string
  | boolean
  | sequence
  | map
  | unsigned (bits : Nat)
  | signed (bits : Nat)
  | double
  | record (r : Record)
  deriving DecidableEq, Repr

/-- What was wanted, as a message calls it. -/
def Wanted.name : Wanted → String
  | string => "a string"
  | boolean => "a boolean"
  | sequence => "a sequence"
  | map => "a map"
  | unsigned bits => "u" ++ String.ofList (natText bits)
  | signed bits => "i" ++ String.ofList (natText bits)
  | double => "f64"
  | record r => r.name

/-- Why a value could not be decoded. -/
inductive DecodeError where
  /-- The value is of another kind. -/
  | wrongKind (got : Json) (wanted : Wanted)
  /-- The integer does not fit the type. -/
  | outOfRange (got : Int) (wanted : Wanted)
  /-- The object lacks a field. -/
  | missingField (name : String)
  /-- The array ends before the field at the given position, which must be there. -/
  | tooShort (position : Nat) (record : Record)
  /-- The array goes on after the last field. -/
  | tooLong (length : Nat)
  /-- The declaration of the path parameters is neither a flag nor a schema. -/
  | noUrlForm
  /-- The key names no method although another key of the route does. -/
  | foreignKey (key : String)
  /-- The operation under the key is at fault. -/
  | inMethod (key : String) (cause : DecodeError)

namespace DecodeError

/-- A value as a message calls it. -/
def describe : Json → String
  | .null => "null"
  | .bool true => "boolean `true`"
  | .bool false => "boolean `false`"
  | .number (.integer n) => "integer `" ++ String.ofList (intText n) ++ "`"
  | .number (.double x) => "floating point `" ++ String.ofList x.text ++ "`"
  | .string s => "string " ++ Text.quoted s
  | .array _ => "sequence"
  | .object _ => "map"

/-- The wording of the error. -/
def message : DecodeError → String
  | wrongKind got wanted => "invalid type: " ++ describe got ++ ", expected " ++ wanted.name
  | outOfRange got wanted =>
    "invalid value: integer `" ++ String.ofList (intText got) ++ "`, expected " ++ wanted.name
  | missingField name => "missing field `" ++ name ++ "`"
  | tooShort position record =>
    let count := record.fields.length
    "invalid length " ++ String.ofList (natText position) ++ ", expected " ++ record.name
      ++ " with " ++ String.ofList (natText count)
      ++ (if count = 1 then " element" else " elements")
  | tooLong length =>
    "invalid length " ++ String.ofList (natText length) ++ ", expected fewer elements in array"
  | noUrlForm => "data did not match any variant of untagged enum UrlParams"
  | foreignKey key =>
    "unexpected key '" ++ key ++
      "' among route methods (expected one of get, post, put, update, delete, head)"
  | inMethod key cause => "method '" ++ key ++ "': " ++ cause.message

end DecodeError

/-- The result of decoding. -/
abbrev Decoded (α : Type) := Except DecodeError α

namespace Json

/-- The text of a string. -/
def decodeString : Json → Decoded String
  | .string s => .ok s
  | value => .error (.wrongKind value .string)

/-- A truth value. -/
def decodeBool : Json → Decoded Bool
  | .bool b => .ok b
  | value => .error (.wrongKind value .boolean)

/-- An integer from `low` to `high`. -/
def decodeInteger (wanted : Wanted) (low high : Int) : Json → Decoded Int
  | .number (.integer n) =>
    if low ≤ n ∧ n ≤ high then .ok n else .error (.outOfRange n wanted)
  | value => .error (.wrongKind value wanted)

/-- A natural number of so many binary digits. -/
def decodeUnsigned (bits : Nat) (value : Json) : Decoded Nat :=
  (decodeInteger (.unsigned bits) 0 (Nat.pow 2 bits - 1) value).map Int.toNat

/-- An integer of so many binary digits, one of them for the sign. -/
def decodeSigned (bits : Nat) (value : Json) : Decoded Int :=
  decodeInteger (.signed bits) (-(Nat.pow 2 (bits - 1) : Int)) (Nat.pow 2 (bits - 1) - 1) value

/-- A double; an integer is rounded to one. -/
def decodeDouble : Json → Decoded Rounded
  | .number (.integer n) => .ok (Double.ofInt n)
  | .number (.double x) => .ok (.finite x)
  | value => .error (.wrongKind value .double)

/-- The items of an array, each decoded. -/
def decodeList (decode : Json → Decoded α) : Json → Decoded (List α)
  | .array items => items.mapM decode
  | value => .error (.wrongKind value .sequence)

/-- Nothing from `null`, and the decoded value from every other. -/
def decodeOptional (decode : Json → Decoded α) (value : Json) : Decoded (Option α) :=
  if value.isNull then .ok none else (decode value).map some

/-- The members of an object, each decoded, in their order. -/
def decodeMembers (decode : String → Json → Decoded α) : List (String × Json) → Decoded (Entries α)
  | [] => .ok []
  | (key, value) :: rest => do
    let first ← decode key value
    let others ← decodeMembers decode rest
    return (key, first) :: others

/-- The members of an object, each decoded. -/
def decodeMap (decode : Json → Decoded α) : Json → Decoded (Entries α)
  | .object members => decodeMembers (fun _ => decode) members
  | value => .error (.wrongKind value .map)

/-- The members of a record that is written as an object, or as an array in the order of its fields:
the values with the names of the fields they belong to. -/
def recordMembers (record : Record) : Json → Decoded (List (String × Json))
  | .object members => .ok members
  | .array items => .ok (record.fields.zip items)
  | value => .error (.wrongKind value (.record record))

/-- Refuses an array with more items than the record has fields. -/
def checkLength (record : Record) : Json → Decoded Unit
  | .array items =>
    if record.fields.length < items.length then .error (.tooLong items.length) else .ok ()
  | _ => .ok ()

/-- The error for a field that must be there and is not. -/
def absent (record : Record) (field : String) : Json → DecodeError
  | .array _ => .tooShort (record.fields.idxOf field) record
  | _ => .missingField field

/-- An object of the members that are there. -/
def ofOptional (members : List (String × Option Json)) : Json :=
  .object (members.filterMap fun (key, value) => value.map fun v => (key, v))

end Json

end Switchboard
