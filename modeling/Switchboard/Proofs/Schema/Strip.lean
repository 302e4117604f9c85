import Mathlib.Data.List.Basic
import Switchboard.Proofs.Schema.Shape

/-!
# Without what is not declared

Shaping drops what a schema does not name.  It could still look at it before:
where a member stands decides the order of the others, and whether a name is
there at all decides about its default.  `Schema.strip` takes out beforehand
what is not declared, at every depth, and converts nothing; shaping then gives
the same object, in the same order (`shape_strip`).

Only members that count as given are taken out, as only those are dropped.  The
inside of a value is looked at where it is declared: a field for text or one
with a parser of its own reads the whole value, and keeps it whole here.
-/

namespace Switchboard

namespace Schema

/-- What is left of a member: nothing, if it counts as given and is not declared. The third argument
takes out of the value what its field does not declare. -/
def stripMember (schema : Schema) (key : String) (value : Json) (strip : Field → Json) :
    Option (String × Json) :=
  match Entries.get? schema key with
  | some f => some (key, strip f)
  | none => if value.isTruthy then none else some (key, value)

end Schema

/-- The value without what its field does not declare inside of it. -/
def stripValue (value : Json) (f : Field) : Json :=
  match f.type with
  | .array =>
    match value, f.item with
    | .array items, some item => .array (items.attach.map fun ⟨w, _⟩ => stripValue w item)
    | other, _ => other
  | .object =>
    match value, f.fields with
    | .object members, some fields =>
      .object (members.attach.filterMap fun ⟨entry, _⟩ =>
        Schema.stripMember fields entry.1 entry.2 (stripValue entry.2))
    | other, _ => other
  | _ => value
termination_by value.size
decreasing_by
  · exact Json.size_lt_of_mem_array ‹_›
  · exact Json.size_lt_of_mem_object ‹_›

/-- The object without what the schema does not declare, at every depth. -/
def Schema.strip (schema : Schema) (data : Entries Json) : Entries Json :=
  data.filterMap fun entry => schema.stripMember entry.1 entry.2 (stripValue entry.2)

/-- What is taken out of a value, by the type of its field. -/
theorem stripValue_eq (value : Json) (f : Field) :
    stripValue value f =
      match f.type with
      | .array =>
        match value, f.item with
        | .array items, some item => .array (items.map fun w => stripValue w item)
        | other, _ => other
      | .object =>
        match value, f.fields with
        | .object members, some fields => .object (Schema.strip fields members)
        | other, _ => other
      | _ => value := by
  conv => lhs; unfold stripValue
  cases f.type with
  | array =>
      cases f.item with
      | none => cases value <;> rfl
      | some item =>
          cases value with
          | array items =>
              exact congrArg Json.array
                (List.attach_map_val (f := fun w => stripValue w item))
          | null | bool | number | string | object => rfl
  | object =>
      cases f.fields with
      | none => cases value <;> rfl
      | some fields =>
          cases value with
          | object members =>
              refine congrArg Json.object ?_
              conv => rhs; unfold Schema.strip; rw [← List.attach_map_subtype_val members]
              rw [List.filterMap_map]
              rfl
          | null | bool | number | string | array => rfl
  | string | number | int | date | untyped | custom => rfl

/-- Nothing is taken out of a value in such a way that it no longer counts as given. -/
theorem isTruthy_stripValue (value : Json) (f : Field) :
    (stripValue value f).isTruthy = value.isTruthy := by
  rw [stripValue_eq]
  cases f.type with
  | array => cases f.item <;> cases value <;> rfl
  | object => cases f.fields <;> cases value <;> rfl
  | string | number | int | date | untyped | custom => rfl

namespace Schema

variable {registry : Registry} {schema : Schema} {data : Entries Json}

theorem stripMember_of_declared {key : String} {f : Field} (h : Entries.get? schema key = some f)
    (value : Json) (strip : Field → Json) :
    stripMember schema key value strip = some (key, strip f) := by
  rw [stripMember, h]

theorem stripMember_of_undeclared {key : String} (h : Entries.get? schema key = none)
    (value : Json) (strip : Field → Json) :
    stripMember schema key value strip =
      if value.isTruthy then none else some (key, value) := by
  rw [stripMember, h]

/-- What is left of a member keeps its name. -/
theorem fst_of_stripMember {key : String} {value : Json} {strip : Field → Json}
    {left : String × Json} (h : stripMember schema key value strip = some left) :
    left.1 = key := by
  unfold stripMember at h
  split at h
  · exact (Option.some.inj h) ▸ rfl
  · split at h
    · simp at h
    · exact (Option.some.inj h) ▸ rfl

theorem mem_keys_of_mem_strip {entry : String × Json} (h : entry ∈ strip schema data) :
    entry.1 ∈ Entries.keys data := by
  obtain ⟨given, hgiven, hsome⟩ := List.mem_filterMap.1 h
  rw [fst_of_stripMember hsome]
  exact List.mem_map_of_mem hgiven

/-- A declared name is there before if and only if it is there afterwards. -/
theorem mem_keys_strip_iff {key : String} (h : key ∈ Entries.keys schema) :
    key ∈ Entries.keys (strip schema data) ↔ key ∈ Entries.keys data := by
  obtain ⟨f, hf⟩ := Option.isSome_iff_exists.1 (Entries.get?_isSome_iff.2 h)
  constructor
  · intro hkey
    obtain ⟨value, hvalue⟩ := Entries.exists_of_mem_keys hkey
    exact mem_keys_of_mem_strip hvalue
  · intro hkey
    obtain ⟨value, hvalue⟩ := Entries.exists_of_mem_keys hkey
    refine @Entries.mem_keys_of_mem _ _ _ (stripValue value f) ?_
    exact List.mem_filterMap.2 ⟨(key, value), hvalue, stripMember_of_declared hf _ _⟩

/-- The same defaults come in. -/
theorem missingDefaults_strip : missingDefaults schema (strip schema data) =
    missingDefaults schema data := by
  refine List.filterMap_congr fun entry hentry => ?_
  have hkey := @mem_keys_strip_iff schema data entry.1 (List.mem_map_of_mem hentry)
  have hhas : Entries.has (strip schema data) entry.1 = Entries.has data entry.1 := by
    rw [Bool.eq_iff_iff, Entries.has, Entries.has, Entries.get?_isSome_iff,
      Entries.get?_isSome_iff, hkey]
  dsimp only
  rw [hhas]

/-- If the values of the members come to the same, then so does the object. -/
theorem shape_strip_of_forall
    (h : ∀ entry ∈ data, ∀ f, shapeValue registry (stripValue entry.2 f) f =
      shapeValue registry entry.2 f) :
    shape registry schema (strip schema data) = shape registry schema data := by
  unfold shape
  rw [missingDefaults_strip]
  congr 1
  rw [strip, List.filterMap_filterMap]
  refine List.filterMap_congr fun ⟨key, value⟩ hentry => ?_
  dsimp only
  cases hget : Entries.get? schema key with
  | some f =>
      rw [stripMember_of_declared hget, Option.bind_some, shapeMember_of_declared hget,
        shapeMember_of_declared hget, h _ hentry f]
  | none =>
      rw [stripMember_of_undeclared hget]
      cases htruthy : value.isTruthy with
      | true => simp [shapeMember, htruthy, hget]
      | false => simp [shapeMember, htruthy]

end Schema

/-- A value that does not count as given has nothing inside of it. -/
theorem stripValue_of_not_truthy {value : Json} (h : value.isTruthy = false) (f : Field) :
    stripValue value f = value := by
  rw [stripValue_eq]
  cases f.type with
  | array =>
      cases value with
      | array => exact absurd h (by simp [Json.isTruthy])
      | null | bool | number | string | object => cases f.item <;> rfl
  | object =>
      cases value with
      | object => exact absurd h (by simp [Json.isTruthy])
      | null | bool | number | string | array => cases f.fields <;> rfl
  | string | number | int | date | untyped | custom => rfl

/-- A value is shaped the same without what its field does not declare. -/
theorem shapeValue_stripValue (registry : Registry) (value : Json) (f : Field) :
    shapeValue registry (stripValue value f) f = shapeValue registry value f := by
  cases htruthy : value.isTruthy with
  | false => rw [stripValue_of_not_truthy htruthy]
  | true =>
      have hstripped : (stripValue value f).isTruthy = true := by
        rw [isTruthy_stripValue, htruthy]
      rw [shapeValue_of_truthy registry _ f hstripped, shapeValue_of_truthy registry value f htruthy,
        stripValue_eq]
      cases htype : f.type with
      | array =>
          cases hitem : f.item with
          | none => cases value <;> rfl
          | some item =>
              cases value with
              | array items =>
                  dsimp only
                  rw [List.map_map]
                  refine congrArg Json.array (List.map_congr_left fun w hw => ?_)
                  exact shapeValue_stripValue registry w item
              | null | bool | number | string | object => rfl
      | object =>
          cases hfields : f.fields with
          | none => cases value <;> rfl
          | some fields =>
              cases value with
              | object members =>
                  refine congrArg Json.object (Schema.shape_strip_of_forall fun entry hentry g => ?_)
                  exact shapeValue_stripValue registry entry.2 g
              | null | bool | number | string | array => rfl
      | string | number | int | date | untyped | custom => rfl
termination_by value.size
decreasing_by
  · exact Json.size_lt_of_mem_array hw
  · exact Json.size_lt_of_mem_object hentry

/-- An object is shaped the same without what its schema does not declare. -/
theorem Schema.shape_strip (registry : Registry) (schema : Schema) (data : Entries Json) :
    schema.shape registry (schema.strip data) = schema.shape registry data :=
  shape_strip_of_forall fun entry _ f => shapeValue_stripValue registry entry.2 f

/-! ## Adding members -/

namespace Schema

variable {schema : Schema} {data data₁ data₂ : Entries Json} {key : String} {value : Json}

theorem strip_cons (schema : Schema) (entry : String × Json) (rest : Entries Json) :
    strip schema (entry :: rest) =
      (stripMember schema entry.1 entry.2 (stripValue entry.2)).toList ++ strip schema rest := by
  unfold strip
  rw [List.filterMap_cons]
  split
  · rename_i hnone
    rw [hnone]
    rfl
  · rename_i hsome
    rw [hsome]
    rfl

/-- A declared member takes the place of the one of its name, or the last one. -/
theorem strip_set_of_declared {f : Field} (h : Entries.get? schema key = some f) :
    strip schema (Entries.set data key value) =
      Entries.set (strip schema data) key (stripValue value f) := by
  induction data with
  | nil => simp [Entries.set, strip, stripMember_of_declared h]
  | cons entry rest ih =>
      obtain ⟨k, w⟩ := entry
      rw [Entries.set, strip_cons]
      split
      · rename_i hk
        subst hk
        rw [strip_cons, stripMember_of_declared h, stripMember_of_declared h]
        simp [Entries.set]
      · rename_i hk
        rw [strip_cons, ih]
        cases hleft : stripMember schema k w (stripValue w) with
        | none => rfl
        | some left =>
            have hne : left.1 ≠ key := by rwa [fst_of_stripMember hleft]
            simp [Entries.set, hne]

/-- A member that is not declared only takes the one of its name away. -/
theorem strip_set_of_undeclared (hdistinct : Entries.Distinct data)
    (h : Entries.get? schema key = none) (htruthy : value.isTruthy = true) :
    strip schema (Entries.set data key value) =
      (strip schema data).filter fun entry => entry.1 != key := by
  have hdropped : ∀ w : Json, (stripMember schema key w (stripValue w)).toList.filter
      (fun entry => entry.1 != key) = [] := by
    intro w
    rw [List.filter_eq_nil_iff]
    intro left hleft
    simpa using fst_of_stripMember (Option.mem_toList.1 hleft)
  induction data with
  | nil => simp [Entries.set, strip, stripMember_of_undeclared h, htruthy]
  | cons entry rest ih =>
      obtain ⟨k, w⟩ := entry
      unfold Entries.Distinct Entries.keys at hdistinct ih
      rw [List.map_cons, List.nodup_cons] at hdistinct
      rw [Entries.set, strip_cons, List.filter_append]
      split
      · rename_i hk
        subst hk
        have hrest : (strip schema rest).filter (fun entry => entry.1 != k) = strip schema rest := by
          rw [List.filter_eq_self]
          intro left hleft
          have hmem := mem_keys_of_mem_strip hleft
          simp only [bne_iff_ne, ne_eq]
          rintro rfl
          exact hdistinct.1 hmem
        rw [strip_cons, stripMember_of_undeclared h, if_pos htruthy, hdropped, hrest]
        rfl
      · rename_i hk
        rw [strip_cons, ih hdistinct.2]
        congr 1
        rw [eq_comm, List.filter_eq_self]
        intro left hleft
        rw [fst_of_stripMember (Option.mem_toList.1 hleft)]
        simpa using hk

/-- Objects that come to the same still do when the same members are set in both. -/
theorem strip_merge_congr (h₁ : Entries.Distinct data₁) (h₂ : Entries.Distinct data₂)
    (h : strip schema data₁ = strip schema data₂) {added : Entries Json}
    (hadded : ∀ entry ∈ added, entry.2.isTruthy = true) :
    strip schema (Entries.merge data₁ added) = strip schema (Entries.merge data₂ added) := by
  induction added generalizing data₁ data₂ with
  | nil => exact h
  | cons entry rest ih =>
      refine ih (h₁.set _ _) (h₂.set _ _) ?_ fun e he => hadded e (List.mem_cons_of_mem _ he)
      cases hget : Entries.get? schema entry.1 with
      | some f => rw [strip_set_of_declared hget, strip_set_of_declared hget, h]
      | none =>
          have htruthy := hadded entry List.mem_cons_self
          rw [strip_set_of_undeclared h₁ hget htruthy, strip_set_of_undeclared h₂ hget htruthy, h]

end Schema

end Switchboard
