import Switchboard.Proofs.Entries
import Switchboard.Schema.Shape

/-!
# What shaping leaves of a name

Shaping takes the members one by one, so what becomes of a name can be said for
that name alone: a declared one keeps its place with its value converted
(`gives_shape`), and one that is not declared is gone if its value counts as
given (`notMem_keys_shape`).  A default comes in only where no member has the
name.

A value on its own is converted by the type of its field (`shapeValue_of_truthy`),
and what is inside an array or an object by the declarations in the field.
-/

namespace Switchboard

theorem shapeValue_of_not_truthy (registry : Registry) {value : Json}
    (h : value.isTruthy = false) (f : Field) : shapeValue registry value f = value := by
  unfold shapeValue
  rw [if_neg (by simp [h])]

/-- What becomes of a value that counts as given, by the type of its field. -/
theorem shapeValue_of_truthy (registry : Registry) (value : Json) (f : Field) :
    value.isTruthy = true →
    shapeValue registry value f =
      match f.type with
      | .string => coerceString value
      | .number => coerceNumber readNumber value
      | .int => coerceNumber readWhole value
      | .date => coerceDate value
      | .untyped => value
      | .array =>
        match value, f.item with
        | .array items, some item => .array (items.map fun w => shapeValue registry w item)
        | other, _ => other
      | .object =>
        match value, f.fields with
        | .object members, some fields => .object (Schema.shape registry fields members)
        | other, _ => other
      | .custom name =>
        match registry.find? name with
        | none => value
        | some parser =>
          match parser.parse value fun w _ => shapeValue registry w with
          | .parsed result => result
          | _ => value := by
  intro h
  conv => lhs; unfold shapeValue
  rw [if_pos h]
  cases f.type with
  | array =>
      cases f.item with
      | none => cases value <;> rfl
      | some item =>
          cases value with
          | array items =>
              exact congrArg Json.array
                (List.attach_map_val (f := fun w => shapeValue registry w item))
          | null | bool | number | string | object => rfl
  | object =>
      cases f.fields with
      | none => cases value <;> rfl
      | some fields =>
          cases value with
          | object members =>
              exact congrArg Json.object (Schema.shapeWith_eq_shape registry fields members)
          | null | bool | number | string | array => rfl
  | string | number | int | date | untyped | custom => rfl

namespace Schema

variable {registry : Registry} {schema : Schema} {data : Entries Json} {key : String}

/-- A declared member is converted; one that does not count as given is left as it is by the
conversion itself. -/
theorem shapeMember_of_declared {f : Field} (h : Entries.get? schema key = some f) (value : Json) :
    shapeMember schema key value (shapeValue registry value) =
      some (key, shapeValue registry value f) := by
  unfold shapeMember
  split
  · rw [h, Option.map_some]
  · rename_i hfalsy
    rw [shapeValue_of_not_truthy registry (by simpa using hfalsy)]

theorem shapeMember_of_undeclared (h : key ∉ Entries.keys schema) {value : Json}
    (htruthy : value.isTruthy = true) (shape : Field → Json) :
    shapeMember schema key value shape = none := by
  rw [shapeMember, if_pos htruthy, Entries.get?_eq_none_iff.2 h, Option.map_none]

theorem mem_missingDefaults {value : Json} (h : (key, value) ∈ missingDefaults schema data) :
    key ∉ Entries.keys data ∧ ∃ f, (key, f) ∈ schema ∧ f.fallback = some value := by
  obtain ⟨⟨name, f⟩, hmem, hsome⟩ := List.mem_filterMap.1 h
  dsimp only at hsome
  split at hsome
  · simp at hsome
  · rename_i hhas
    obtain ⟨fallback, hfallback, heq⟩ := Option.map_eq_some_iff.1 hsome
    obtain ⟨rfl, rfl⟩ := Prod.mk.inj heq
    exact ⟨fun hkey => hhas (Entries.get?_isSome_iff.2 hkey), f, hmem, hfallback⟩

/-- A member of a shaped object comes from a member of the same name or is a default. -/
theorem mem_shape {result : Json} (h : (key, result) ∈ shape registry schema data) :
    (∃ value, (key, value) ∈ data ∧
        shapeMember schema key value (shapeValue registry value) = some (key, result)) ∨
      (key ∉ Entries.keys data ∧ ∃ f, (key, f) ∈ schema ∧ f.fallback = some result) := by
  rcases List.mem_append.1 h with hmember | hdefault
  · obtain ⟨⟨name, value⟩, hmem, hsome⟩ := List.mem_filterMap.1 hmember
    have hname : name = key := by
      simp only [shapeMember] at hsome
      split at hsome
      · obtain ⟨f, -, heq⟩ := Option.map_eq_some_iff.1 hsome
        exact (Prod.mk.inj heq).1
      · exact (Prod.mk.inj (Option.some.inj hsome)).1
    subst hname
    exact .inl ⟨value, hmem, hsome⟩
  · exact .inr (mem_missingDefaults hdefault)

/-- What is left of the only value of a name is its only value afterwards. -/
theorem gives_shape_of_shapeMember {value result : Json} (h : Entries.Gives data key value)
    (hleft : shapeMember schema key value (shapeValue registry value) = some (key, result)) :
    Entries.Gives (shape registry schema data) key result := by
  obtain ⟨hmem, hall⟩ := h
  constructor
  · obtain ⟨found, hfound⟩ := Entries.exists_of_mem_keys hmem
    refine @Entries.mem_keys_of_mem _ _ _ result ?_
    refine List.mem_append_left _ (List.mem_filterMap.2 ⟨(key, found), hfound, ?_⟩)
    rw [hall found hfound]
    exact hleft
  · intro other hother
    rcases mem_shape hother with ⟨found, hfound, hsome⟩ | ⟨habsent, -⟩
    · rw [hall found hfound, hleft] at hsome
      exact (Prod.mk.inj (Option.some.inj hsome)).2.symm
    · exact absurd hmem habsent

/-- A declared name has its converted value. -/
theorem gives_shape {f : Field} (hdeclared : Entries.get? schema key = some f) {value : Json}
    (h : Entries.Gives data key value) :
    Entries.Gives (shape registry schema data) key (shapeValue registry value f) :=
  gives_shape_of_shapeMember h (shapeMember_of_declared hdeclared value)

/-- A declared name that is absent has its default. -/
theorem gives_shape_of_absent {f : Field} (hdeclared : Entries.Gives schema key f)
    (habsent : key ∉ Entries.keys data) {value : Json} (hfallback : f.fallback = some value) :
    Entries.Gives (shape registry schema data) key value := by
  constructor
  · obtain ⟨g, hg⟩ := Entries.exists_of_mem_keys hdeclared.1
    have hdefault : (key, value) ∈ missingDefaults schema data := by
      refine List.mem_filterMap.2 ⟨(key, g), hg, ?_⟩
      have hhas : Entries.has data key ≠ true := fun h =>
        habsent (Entries.get?_isSome_iff.1 h)
      dsimp only
      rw [if_neg hhas, hdeclared.2 g hg, hfallback]
      rfl
    exact Entries.mem_keys_of_mem (List.mem_append_right _ hdefault)
  · intro other hother
    rcases mem_shape hother with ⟨found, hfound, -⟩ | ⟨-, g, hg, hsome⟩
    · exact absurd (Entries.mem_keys_of_mem hfound) habsent
    · rw [hdeclared.2 g hg, hfallback] at hsome
      exact (Option.some.inj hsome).symm

/-- A name that is not declared is gone if all its values count as given. -/
theorem notMem_keys_shape (hschema : key ∉ Entries.keys schema)
    (hdata : ∀ value, (key, value) ∈ data → value.isTruthy = true) :
    key ∉ Entries.keys (shape registry schema data) := by
  intro hkey
  obtain ⟨result, hresult⟩ := Entries.exists_of_mem_keys hkey
  rcases mem_shape hresult with ⟨value, hvalue, hsome⟩ | ⟨-, f, hdeclared, -⟩
  · rw [shapeMember_of_undeclared hschema (hdata value hvalue)] at hsome
    exact absurd hsome (by simp)
  · exact hschema (Entries.mem_keys_of_mem hdeclared)

/-- Neither the data nor the schema that shapes it knows the name. -/
structure LeavesOut (schema : Schema) (data : Entries Json) (name : String) : Prop where
  undeclared : name ∉ Entries.keys schema
  absent : name ∉ Entries.keys data

theorem LeavesOut.notMem_keys_shape (h : LeavesOut schema data key) (registry : Registry) :
    key ∉ Entries.keys (shape registry schema data) :=
  Schema.notMem_keys_shape h.undeclared fun _ hmem =>
    absurd (Entries.mem_keys_of_mem hmem) h.absent

end Schema

end Switchboard
