import Mathlib.Data.List.Basic
import Switchboard.Proofs.Schema.Conformance

/-!
# Shaping what is shaped

What has been shaped is left as it is by the schema that shaped it (`shape_idempotent`).  The
second time round everything is different: a value that counted as given may not do so any more, a
default that was put in is taken for a value, and no name is missing.

Three kinds of fields do not let this pass.  A date is read back only if its year has four digits,
a parser may read its own result in another way, and a default may be of another form than its own
field declares.  `Field.Steady` leaves them out, in a declaration and in everything inside of it.
-/

namespace Switchboard

variable {registry : Registry}

namespace Field

/-- The declaration converts what it has converted to itself, as far as it can be seen without
looking inside. -/
structure Settles (registry : Registry) (f : Field) : Prop where
  notDate : f.type ≠ .date
  noParser : ∀ name, f.type = .custom name → registry.find? name = none
  fallback : ∀ value, f.fallback = some value → shapeValue registry value f = value
  distinct : ∀ fields, f.fields = some fields → Entries.Distinct fields

/-- The declaration and all that stand inside of it settle. -/
def Steady (registry : Registry) (f : Field) : Prop := ∀ g : Field, g.Within f → g.Settles registry

variable {f : Field}

theorem Steady.settles (h : f.Steady registry) : f.Settles registry := h f .self

theorem Steady.item (h : f.Steady registry) {item : Field} (hitem : f.item = some item) :
    item.Steady registry := fun g hwithin => h g (.item hitem hwithin)

theorem Steady.field (h : f.Steady registry) {fields : Schema} (hfields : f.fields = some fields)
    {name : String} {g : Field} (hmem : (name, g) ∈ fields) : g.Steady registry :=
  fun g' hwithin => h g' (.field hfields hmem hwithin)

/-- A declaration is steady if it settles and everything inside of it is steady. -/
theorem Steady.intro (hsettles : f.Settles registry)
    (hfields : ∀ fields, f.fields = some fields → ∀ entry ∈ fields, entry.2.Steady registry)
    (hitem : ∀ item, f.item = some item → item.Steady registry) : f.Steady registry :=
  forall_within hsettles hfields hitem

end Field

/-- The names of the fields are distinct, and all fields are steady. -/
structure Schema.Steady (registry : Registry) (schema : Schema) : Prop where
  distinct : Entries.Distinct schema
  field : ∀ entry ∈ schema, entry.2.Steady registry

namespace Schema

variable {schema : Schema} {data : Entries Json}

/-- A declared member is never dropped. -/
theorem mem_keys_shape_of_declared (registry : Registry) {key : String}
    (hschema : key ∈ Entries.keys schema) (hdata : key ∈ Entries.keys data) :
    key ∈ Entries.keys (shape registry schema data) := by
  obtain ⟨f, hf⟩ := Option.isSome_iff_exists.1 (Entries.get?_isSome_iff.2 hschema)
  obtain ⟨value, hvalue⟩ := Entries.exists_of_mem_keys hdata
  exact Entries.mem_keys_of_mem (List.mem_append_left _
    (List.mem_filterMap.2 ⟨(key, value), hvalue, shapeMember_of_declared hf value⟩))

/-- No default is missing in a shaped object. -/
theorem missingDefaults_shape (registry : Registry) (schema : Schema) (data : Entries Json) :
    missingDefaults schema (shape registry schema data) = [] := by
  rw [missingDefaults, List.filterMap_eq_nil_iff]
  intro ⟨key, f⟩ hdeclared
  dsimp only
  split
  · rfl
  · rename_i hmissing
    have habsent : key ∉ Entries.keys (shape registry schema data) := fun hkey =>
      hmissing (Entries.get?_isSome_iff.2 hkey)
    have hdata : Entries.has data key ≠ true := fun hhas =>
      habsent (mem_keys_shape_of_declared registry (Entries.mem_keys_of_mem hdeclared)
        (Entries.get?_isSome_iff.1 hhas))
    cases hfallback : f.fallback with
    | none => rfl
    | some value =>
        have hdefault : (key, value) ∈ missingDefaults schema data :=
          List.mem_filterMap.2 ⟨(key, f), hdeclared, by simp [hdata, hfallback]⟩
        exact absurd (Entries.mem_keys_of_mem (List.mem_append_right _ hdefault)) habsent

/-- A member of a shaped object has been converted by its field, or is the default of its field, or
does not count as given; in each case it stays as it is. -/
theorem shapeMember_of_mem_shape (hdistinct : Entries.Distinct schema)
    (hfallback : ∀ entry ∈ schema, ∀ value, entry.2.fallback = some value →
      shapeValue registry value entry.2 = value)
    (hdata : ∀ entry ∈ data, ∀ f, Entries.get? schema entry.1 = some f →
      shapeValue registry (shapeValue registry entry.2 f) f = shapeValue registry entry.2 f)
    {key : String} {result : Json} (h : (key, result) ∈ shape registry schema data) :
    shapeMember schema key result (shapeValue registry result) = some (key, result) := by
  rcases mem_shape h with ⟨given, hgiven, hsome⟩ | ⟨-, f, hdeclared, hdefault⟩
  · cases hf : Entries.get? schema key with
    | some f =>
        rw [shapeMember_of_declared hf] at hsome
        obtain ⟨-, rfl⟩ := Prod.mk.inj (Option.some.inj hsome)
        rw [shapeMember_of_declared hf, hdata _ hgiven f hf]
    | none =>
        rw [shapeMember, hf] at hsome
        split at hsome
        · simp at hsome
        · rename_i hfalsy
          obtain ⟨-, rfl⟩ := Prod.mk.inj (Option.some.inj hsome)
          rw [shapeMember, if_neg hfalsy]
  · rw [shapeMember_of_declared (hdistinct.get?_of_mem hdeclared),
      hfallback _ hdeclared result hdefault]

/-- A shaped object stays as it is if its values do. -/
theorem shape_shape_of_forall (hdistinct : Entries.Distinct schema)
    (hfallback : ∀ entry ∈ schema, ∀ value, entry.2.fallback = some value →
      shapeValue registry value entry.2 = value)
    (hdata : ∀ entry ∈ data, ∀ f, Entries.get? schema entry.1 = some f →
      shapeValue registry (shapeValue registry entry.2 f) f = shapeValue registry entry.2 f) :
    shape registry schema (shape registry schema data) = shape registry schema data := by
  have hmember : ∀ entry ∈ shape registry schema data,
      shapeMember schema entry.1 entry.2 (shapeValue registry entry.2) = some entry :=
    fun _ hentry => shapeMember_of_mem_shape hdistinct hfallback hdata hentry
  calc shape registry schema (shape registry schema data)
    _ = (shape registry schema data).filterMap some ++
          missingDefaults schema (shape registry schema data) :=
        congrArg (· ++ _) (List.filterMap_congr hmember)
    _ = shape registry schema data := by
        rw [List.filterMap_some, missingDefaults_shape, List.append_nil]

end Schema

/-- A number, or nothing, is no other number. -/
theorem coerceNumber_coerceNumber (read : List Char → Option Rounded) (value : Json)
    (h : (coerceNumber read value).isTruthy = true) :
    coerceNumber read (coerceNumber read value) = coerceNumber read value := by
  obtain ⟨n, hn⟩ := coerceNumber_of_truthy h
  rw [hn]
  rfl

theorem coerceString_coerceString (value : Json) :
    coerceString (coerceString value) = coerceString value := by
  obtain ⟨s, hs⟩ := exists_coerceString value
  rw [hs]
  rfl

/-- A converted value is left as it is by its steady field. -/
theorem shapeValue_shapeValue {f : Field} (hf : f.Steady registry) (value : Json) :
    shapeValue registry (shapeValue registry value f) f = shapeValue registry value f := by
  cases hresult : (shapeValue registry value f).isTruthy with
  | false => exact shapeValue_of_not_truthy registry hresult f
  | true =>
      cases htruthy : value.isTruthy with
      | false => simp only [shapeValue_of_not_truthy registry htruthy]
      | true =>
          have hfirst := shapeValue_of_truthy registry value f htruthy
          rw [shapeValue_of_truthy registry _ f hresult]
          rw [hfirst] at hresult ⊢
          cases htype : f.type with
          | string => exact coerceString_coerceString value
          | number =>
              rw [htype] at hresult
              exact coerceNumber_coerceNumber _ value hresult
          | int =>
              rw [htype] at hresult
              exact coerceNumber_coerceNumber _ value hresult
          | date => exact absurd htype hf.settles.notDate
          | untyped => rfl
          | array =>
              cases hitem : f.item with
              | none => cases value <;> rfl
              | some item =>
                  cases value with
                  | array items =>
                      dsimp only
                      rw [List.map_map]
                      refine congrArg Json.array (List.map_congr_left fun w hw => ?_)
                      exact shapeValue_shapeValue (hf.item hitem) w
                  | null | bool | number | string | object => rfl
          | object =>
              cases hfields : f.fields with
              | none => cases value <;> rfl
              | some fields =>
                  cases value with
                  | object members =>
                      refine congrArg Json.object (Schema.shape_shape_of_forall
                        (hf.settles.distinct fields hfields) ?_ ?_)
                      · intro entry hentry
                        exact (hf.field hfields hentry).settles.fallback
                      · intro entry hentry g hg
                        exact shapeValue_shapeValue
                          (hf.field hfields (Entries.mem_of_get?_eq_some hg)) entry.2
                  | null | bool | number | string | array => rfl
          | custom name =>
              simp only [hf.settles.noParser name htype]
termination_by value.size
decreasing_by
  · exact Json.size_lt_of_mem_array hw
  · exact Json.size_lt_of_mem_object hentry

/--
**Shaping is idempotent**: a shaped object is left as it is by the schema that shaped it, in its
values and in the order of its members, if the schema has no dates and no types with a parser and
leaves each of its defaults as it is.
-/
theorem shape_idempotent {schema : Schema} (h : schema.Steady registry) (data : Entries Json) :
    schema.shape registry (schema.shape registry data) = schema.shape registry data := by
  refine Schema.shape_shape_of_forall h.distinct ?_ ?_
  · intro entry hentry
    exact (h.field entry hentry).settles.fallback
  · intro entry _ f hf
    exact shapeValue_shapeValue (h.field _ (Entries.mem_of_get?_eq_some hf)) entry.2

/-- An article: a title, sizes, a number of items that has a default, and a price of a type that is
known elsewhere. -/
def article : Schema :=
  [("title", { typeName := some "string" }),
    ("sizes", { item := some { typeName := some "int" } }),
    ("count", { typeName := some "int", fallback := some (.ofInt 1) }),
    ("price", { typeName := some "Money" })]

theorem article_steady : article.Steady {} where
  distinct := by
    unfold Entries.Distinct
    decide
  field := by
    intro entry hentry
    rcases List.mem_cons.1 hentry with rfl | hentry
    · exact .intro ⟨by decide, fun _ _ => rfl, by simp, by simp⟩ (by simp) (by simp)
    rcases List.mem_cons.1 hentry with rfl | hentry
    · refine .intro ⟨by decide, fun _ _ => rfl, by simp, by simp⟩ (by simp) ?_
      intro item hitem
      obtain rfl := Option.some.inj hitem
      exact .intro ⟨by decide, fun _ _ => rfl, by simp, by simp⟩ (by simp) (by simp)
    rcases List.mem_cons.1 hentry with rfl | hentry
    · refine .intro ⟨by decide, fun _ _ => rfl, ?_, by simp⟩ (by simp) (by simp)
      intro value hvalue
      obtain rfl := Option.some.inj hvalue
      rw [shapeValue_of_truthy _ _ _ (by decide)]
      rfl
    · obtain rfl := List.mem_singleton.1 hentry
      exact .intro ⟨by decide, fun _ _ => rfl, by simp, by simp⟩ (by simp) (by simp)

/-- An article as it may come in: the title and the first size no longer count as given once they
are shaped. -/
def offer : Entries Json :=
  [("title", .array []), ("color", .string "red"), ("sizes", .array [.string "x1", .string "42"])]

private theorem shape_offer :
    article.shape {} offer =
      [("title", .string ""), ("sizes", .array [.null, .ofInt 42]), ("count", .ofInt 1)] := by
  have htitle : shapeValue {} (.array []) { typeName := some "string" } = .string "" := by
    rw [shapeValue_of_truthy _ _ _ (by decide)]
    rfl
  have hsize : ∀ s : String, s ≠ "" →
      shapeValue {} (.string s) { typeName := some "int" } =
        coerceNumber readWhole (.string s) := by
    intro s hs
    rw [shapeValue_of_truthy _ _ _ (by simpa [Json.isTruthy] using hs)]
    rfl
  have hsizes : shapeValue {} (.array [.string "x1", .string "42"])
      { item := some { typeName := some "int" } } = .array [.null, .ofInt 42] := by
    rw [shapeValue_of_truthy _ _ _ (by decide)]
    show Json.array [shapeValue {} (.string "x1") { typeName := some "int" },
      shapeValue {} (.string "42") { typeName := some "int" }] = _
    rw [hsize "x1" (by decide), hsize "42" (by decide)]
    rfl
  rw [← htitle, ← hsizes]
  rfl

/-- What no longer counts as given stays as it is the second time. -/
theorem article_idempotent :
    article.Steady {} ∧
      article.shape {} offer =
        [("title", .string ""), ("sizes", .array [.null, .ofInt 42]), ("count", .ofInt 1)] ∧
      article.shape {} (article.shape {} offer) = article.shape {} offer :=
  ⟨article_steady, shape_offer, shape_idempotent article_steady offer⟩

end Switchboard
