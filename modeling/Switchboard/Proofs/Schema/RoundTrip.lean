import Switchboard.Proofs.Json.Decoding
import Switchboard.Schema.Field

/-!
# Declarations read back

A declaration that is written as an object of its parts is read back as it was
(`Field.reads_toJson`), and so is a schema (`Schema.reads_toJson`).  A declaration holds
others in its fields and in its item, so the two are proved together with what is
inside of them, along the writer.

A default of `null` is a default: it is written as a member like any other, and the
reader takes it as it is.
-/

namespace Switchboard

open Json

namespace Field

/-- Sets one part of a declaration. -/
def putPart (f : Field) (part : String × Json) : Decoded Field :=
  f.put part.1 part.2 (fun _ => decodeFields? part.2) (fun _ => decodeItem? part.2)

theorem decodeParts_eq (f : Field) (members : List (String × Json)) :
    decodeParts f members = members.foldlM putPart f := by
  induction members generalizing f with
  | nil => rfl
  | cons member rest ih =>
      rw [decodeParts, List.foldlM_cons]
      exact congrArg _ (funext fun g => ih g)

/-- An item is a declaration, unless it is `null`. -/
theorem decodeItem?_eq {value : Json} (h : value.isNull = false) :
    decodeItem? value = decode value >>= fun f => return some f := by
  cases value with
  | null => exact absurd h (by decide)
  | object members => rw [decodeItem?, decode]
  | array items => rw [decodeItem?, decode]
  | bool | number | string => rfl

/-- Declared fields are a schema, unless they are `null`. -/
theorem decodeFields?_eq {value : Json} (h : value.isNull = false) :
    decodeFields? value = Schema.decode value >>= fun schema => return some schema := by
  cases value with
  | null => exact absurd h (by decide)
  | object members => rw [decodeFields?, Schema.decode]
  | bool | number | string | array => rfl

theorem fieldsToJson_eq (fields : Option Schema) : fieldsToJson fields = fields.map Schema.toJson := by
  cases fields with
  | none => rfl
  | some fields => rfl

theorem itemToJson_eq (item : Option Field) : itemToJson item = item.map toJson := by
  cases item with
  | none => rfl
  | some f => rfl

theorem isNull_toJson (f : Field) : f.toJson.isNull = false := by
  obtain ⟨typeName, fallback, fields, item⟩ := f
  rw [toJson]
  rfl

/-- A declaration is read back if what is inside of it is. -/
theorem decode_toJson_of_inner (f : Field)
    (hfields : ∀ schema : Schema, f.fields = some schema →
      Schema.decode schema.toJson = .ok schema)
    (hitem : ∀ item, f.item = some item → decode item.toJson = .ok item) :
    decode f.toJson = .ok f := by
  obtain ⟨typeName, fallback, fields, item⟩ := f
  have hreadFields : ∀ schema : Schema, fields = some schema →
      decodeFields? schema.toJson = .ok (some schema) := by
    intro schema hschema
    rw [decodeFields?_eq rfl, hfields schema hschema]
    rfl
  have hreadItem : ∀ inner, item = some inner → decodeItem? inner.toJson = .ok (some inner) := by
    intro inner hinner
    rw [decodeItem?_eq inner.isNull_toJson, hitem inner hinner]
    rfl
  rw [toJson, ofOptional_eq, decode, decodeParts_eq]
  calc (parts [("type", typeName.map Json.string), ("default", fallback),
          ("fields", fieldsToJson fields), ("item", itemToJson item)]).foldlM putPart {}
    _ = (parts [("default", fallback), ("fields", fieldsToJson fields),
          ("item", itemToJson item)]).foldlM putPart (mk typeName none none none) :=
        foldlM_parts_optional (decodeOptional decodeString) (mk · none none none) rfl
          (fun name _ => (Reads.string name).optional) (fun _ => rfl) rfl
    _ = (parts [("fields", fieldsToJson fields), ("item", itemToJson item)]).foldlM putPart
          (mk typeName fallback none none) :=
        foldlM_parts_optional (fun value => .ok (some value)) (mk typeName · none none)
          Option.map_id_apply.symm (fun _ _ => rfl) (fun _ => rfl) rfl
    _ = (parts [("item", itemToJson item)]).foldlM putPart (mk typeName fallback fields none) :=
        foldlM_parts_optional decodeFields? (mk typeName fallback · none) (fieldsToJson_eq fields)
          hreadFields (fun _ => rfl) rfl
    _ = .ok (mk typeName fallback fields item) :=
        foldlM_parts_optional decodeItem? (mk typeName fallback fields ·) (itemToJson_eq item)
          hreadItem (fun _ => rfl) rfl

mutual
theorem decode_toJson : (f : Field) → decode f.toJson = .ok f
  | ⟨_, _, fields, item⟩ =>
    decode_toJson_of_inner _ (decode_schemaMembers_of_eq fields) (decode_toJson_of_eq item)

theorem decode_schemaMembers_of_eq : (fields : Option (List (String × Field))) →
    ∀ schema, fields = some schema → decodeSchemaMembers (schemaMembers schema) = .ok schema
  | some fields, _, rfl => decode_schemaMembers fields

theorem decode_toJson_of_eq : (item : Option Field) →
    ∀ f, item = some f → decode f.toJson = .ok f
  | some f, _, rfl => decode_toJson f

theorem decode_schemaMembers : (fields : List (String × Field)) →
    decodeSchemaMembers (schemaMembers fields) = .ok fields
  | [] => rfl
  | (key, f) :: rest => by
    rw [schemaMembers, decodeSchemaMembers, decode_toJson f, decode_schemaMembers rest]
    rfl
end

theorem reads_toJson (f : Field) : Reads decode f.toJson f :=
  ⟨f.decode_toJson, f.isNull_toJson⟩

end Field

theorem Schema.reads_toJson (schema : Schema) : Reads Schema.decode schema.toJson schema :=
  ⟨Field.decode_schemaMembers schema, rfl⟩

end Switchboard
