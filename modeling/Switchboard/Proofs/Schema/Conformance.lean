import Switchboard.Proofs.Schema.Shape

/-!
# What shaping lets through

A schema promises a form: numbers where it says numbers, and no member that it
does not name.  `Conforms` is that promise for one value, and what is shaped
keeps it at every depth (`conforms_shapeValue`, `shape_confined`).

Three things are let through whatever the schema says, and the promise leaves
them out: values that do not count as given, arrays and objects whose inside is
not declared or that stand where something else is declared, and the values of
types with a parser of their own.  A default is put in as it is, so it has to
keep the promise itself (`Field.Sound`).
-/

namespace Switchboard

/-- The value does not count as given, or it has the form that the field declares, and so has
what is inside of it. -/
def Conforms (value : Json) (f : Field) : Prop :=
  value.isTruthy = true →
    match f.type with
    | .string | .date => ∃ s, value = .string s
    | .number | .int => ∃ n, value = .number n
    | .array =>
      match value, f.item with
      | .array items, some item => ∀ w ∈ items, Conforms w item
      | _, _ => True
    | .object =>
      match value, f.fields with
      | .object members, some fields =>
        ∀ entry ∈ members, entry.2.isTruthy = true →
          ∃ g, (entry.1, g) ∈ fields ∧ Conforms entry.2 g
      | _, _ => True
    | .custom _ | .untyped => True
termination_by value.size
decreasing_by
  · exact Json.size_lt_of_mem_array ‹_›
  · exact Json.size_lt_of_mem_object ‹_›

namespace Field

/-- A declaration that stands somewhere in another one; every declaration stands in itself. -/
inductive Within (g : Field) : Field → Prop
  | self : Within g g
  | field {f h : Field} {fields : Schema} {name : String} (hfields : f.fields = some fields)
      (hmem : (name, h) ∈ fields) (hwithin : Within g h) : Within g f
  | item {f h : Field} (hitem : f.item = some h) (hwithin : Within g h) : Within g f

/-- What holds of a declaration and of everything in its parts holds of everything in it. -/
theorem forall_within {P : Field → Prop} {f : Field} (hself : P f)
    (hfields : ∀ fields, f.fields = some fields →
      ∀ entry ∈ fields, ∀ g : Field, g.Within entry.2 → P g)
    (hitem : ∀ item, f.item = some item → ∀ g : Field, g.Within item → P g) :
    ∀ g : Field, g.Within f → P g := by
  intro g hwithin
  cases hwithin with
  | self => exact hself
  | field hsome hmem hinner => exact hfields _ hsome _ hmem g hinner
  | item hsome hinner => exact hitem _ hsome g hinner

/-- All defaults in the declaration have the form that is declared for them. -/
def Sound (f : Field) : Prop :=
  ∀ g : Field, g.Within f → ∀ value, g.fallback = some value → Conforms value g

variable {f : Field}

theorem Sound.fallback (h : f.Sound) {value : Json} (hvalue : f.fallback = some value) :
    Conforms value f := h f .self value hvalue

theorem Sound.item (h : f.Sound) {item : Field} (hitem : f.item = some item) : item.Sound :=
  fun g hwithin => h g (.item hitem hwithin)

theorem Sound.field (h : f.Sound) {fields : Schema} (hfields : f.fields = some fields)
    {name : String} {g : Field} (hmem : (name, g) ∈ fields) : g.Sound :=
  fun g' hwithin => h g' (.field hfields hmem hwithin)

/-- A declaration is sound if its own default is and everything inside of it is. -/
theorem Sound.intro (hfallback : ∀ value, f.fallback = some value → Conforms value f)
    (hfields : ∀ fields, f.fields = some fields → ∀ entry ∈ fields, entry.2.Sound)
    (hitem : ∀ item, f.item = some item → item.Sound) : f.Sound :=
  forall_within hfallback hfields hitem

end Field

/-- All defaults in the fields have the form that is declared for them. -/
def Schema.Sound (schema : Schema) : Prop := ∀ entry ∈ schema, entry.2.Sound

/-! ## Single values -/

theorem conforms_of_not_truthy {value : Json} (h : value.isTruthy = false) (f : Field) :
    Conforms value f := by
  unfold Conforms
  intro htruthy
  rw [h] at htruthy
  exact absurd htruthy (by decide)

/-- A number or nothing comes of a rounded number. -/
theorem Json.ofRounded_cases (x : Rounded) :
    (∃ n, Json.ofRounded x = .number n) ∨ Json.ofRounded x = .null := by
  cases x with
  | finite x =>
      rw [Json.ofRounded]
      split
      · exact .inl ⟨_, rfl⟩
      · exact .inl ⟨_, rfl⟩
  | infinite negative => exact .inr rfl

/-- A number or nothing comes out of a conversion to a number. -/
theorem coerceNumber_cases (read : List Char → Option Rounded) (value : Json) :
    (∃ n, coerceNumber read value = .number n) ∨ coerceNumber read value = .null := by
  unfold coerceNumber
  split
  · exact .inl ⟨_, rfl⟩
  · split
    · exact Json.ofRounded_cases _
    · exact .inr rfl

theorem coerceNumber_of_truthy {read : List Char → Option Rounded} {value : Json}
    (h : (coerceNumber read value).isTruthy = true) : ∃ n, coerceNumber read value = .number n := by
  rcases coerceNumber_cases read value with hnumber | hnull
  · exact hnumber
  · rw [hnull] at h
    exact absurd h (by decide)

/-- A text or nothing comes out of a conversion to a date. -/
theorem coerceDate_cases (value : Json) :
    (∃ s, coerceDate value = .string s) ∨ coerceDate value = .null := by
  unfold coerceDate
  dsimp only
  split
  · exact .inl ⟨_, rfl⟩
  · exact .inr rfl

theorem coerceDate_of_truthy {value : Json} (h : (coerceDate value).isTruthy = true) :
    ∃ s, coerceDate value = .string s := by
  rcases coerceDate_cases value with htext | hnull
  · exact htext
  · rw [hnull] at h
    exact absurd h (by decide)

theorem exists_coerceString (value : Json) : ∃ s, coerceString value = .string s := by
  unfold coerceString
  split
  · exact ⟨_, rfl⟩
  · exact ⟨_, rfl⟩

/-! ## Objects and what is inside of them -/

namespace Schema

variable {registry : Registry} {schema : Schema} {data : Entries Json}

/-- A member that counts as given in a shaped object is declared. -/
theorem mem_keys_of_mem_shape {name : String} {value : Json}
    (h : (name, value) ∈ shape registry schema data) (htruthy : value.isTruthy = true) :
    name ∈ Entries.keys schema := by
  rcases mem_shape h with ⟨given, -, hsome⟩ | ⟨-, f, hdeclared, -⟩
  · cases hgiven : given.isTruthy with
    | true =>
        rw [shapeMember, if_pos hgiven] at hsome
        obtain ⟨f, hf, -⟩ := Option.map_eq_some_iff.1 hsome
        exact Entries.mem_keys_of_mem (Entries.mem_of_get?_eq_some hf)
    | false =>
        rw [shapeMember, if_neg (by simp [hgiven])] at hsome
        obtain ⟨-, rfl⟩ := Prod.mk.inj (Option.some.inj hsome)
        rw [hgiven] at htruthy
        exact absurd htruthy (by decide)
  · exact Entries.mem_keys_of_mem hdeclared

/-- If the values of the members come to conform, and the defaults do, then so do the members of
the shaped object. -/
theorem exists_conforms_of_mem_shape (hsound : schema.Sound)
    (hdata : ∀ entry ∈ data, ∀ f, (entry.1, f) ∈ schema →
      Conforms (shapeValue registry entry.2 f) f) {name : String} {value : Json}
    (h : (name, value) ∈ shape registry schema data) (htruthy : value.isTruthy = true) :
    ∃ f, (name, f) ∈ schema ∧ Conforms value f := by
  rcases mem_shape h with ⟨given, hgiven, hsome⟩ | ⟨-, f, hdeclared, hfallback⟩
  · obtain ⟨f, hf⟩ := Option.isSome_iff_exists.1
      (Entries.get?_isSome_iff.2 (mem_keys_of_mem_shape h htruthy))
    have hdeclared := Entries.mem_of_get?_eq_some hf
    rw [shapeMember_of_declared hf] at hsome
    obtain ⟨-, rfl⟩ := Prod.mk.inj (Option.some.inj hsome)
    exact ⟨f, hdeclared, hdata _ hgiven f hdeclared⟩
  · exact ⟨f, hdeclared, (hsound _ hdeclared).fallback hfallback⟩

end Schema

/-- What is shaped by a field has the form that the field declares. -/
theorem conforms_shapeValue (registry : Registry) {f : Field} (hf : f.Sound) (value : Json) :
    Conforms (shapeValue registry value f) f := by
  cases htruthy : value.isTruthy with
  | false =>
      rw [shapeValue_of_not_truthy registry htruthy]
      exact conforms_of_not_truthy htruthy f
  | true =>
      rw [shapeValue_of_truthy registry value f htruthy]
      unfold Conforms
      intro hresult
      cases htype : f.type with
      | string => exact exists_coerceString value
      | number =>
          rw [htype] at hresult
          exact coerceNumber_of_truthy hresult
      | int =>
          rw [htype] at hresult
          exact coerceNumber_of_truthy hresult
      | date =>
          rw [htype] at hresult
          exact coerceDate_of_truthy hresult
      | array =>
          cases hitem : f.item with
          | none => cases value <;> trivial
          | some item =>
              cases value with
              | array items =>
                  intro w hw
                  obtain ⟨given, hgiven, rfl⟩ := List.mem_map.1 hw
                  exact conforms_shapeValue registry (hf.item hitem) given
              | null | bool | number | string | object => trivial
      | object =>
          cases hfields : f.fields with
          | none => cases value <;> trivial
          | some fields =>
              cases value with
              | object members =>
                  intro entry hentry
                  refine Schema.exists_conforms_of_mem_shape
                    (fun _ hmem => hf.field hfields hmem) ?_ hentry
                  intro given hgiven g hmem
                  exact conforms_shapeValue registry (hf.field hfields hmem) given.2
              | null | bool | number | string | array => trivial
      | custom | untyped => trivial
termination_by value.size
decreasing_by
  · exact Json.size_lt_of_mem_array hgiven
  · exact Json.size_lt_of_mem_object hgiven

/--
**Confinement**: what is shaped by a field has the form that the field declares, at every depth,
and in a shaped object every member that counts as given is declared and has its declared form;
only defaults of another form would get past this.
-/
theorem shape_confined (registry : Registry) :
    (∀ f : Field, f.Sound → ∀ value, Conforms (shapeValue registry value f) f) ∧
    ∀ (schema : Schema) (data : Entries Json) (name : String) (value : Json),
      (name, value) ∈ schema.shape registry data → value.isTruthy = true →
        name ∈ Entries.keys schema ∧
          (schema.Sound → ∃ f, (name, f) ∈ schema ∧ Conforms value f) := by
  refine ⟨fun f hf value => conforms_shapeValue registry hf value, ?_⟩
  intro schema data name value hmem htruthy
  refine ⟨Schema.mem_keys_of_mem_shape hmem htruthy, fun hsound => ?_⟩
  refine Schema.exists_conforms_of_mem_shape hsound ?_ hmem htruthy
  intro entry _ f hdeclared
  exact conforms_shapeValue registry (hsound _ hdeclared) entry.2

/-- An account: an age, and labels that are texts. -/
def account : Schema :=
  [("age", { typeName := some "int", fallback := some (.ofInt 18) }),
    ("labels", { item := some { typeName := some "string" } })]

theorem account_sound : account.Sound := by
  intro entry hentry
  rcases List.mem_cons.1 hentry with rfl | hentry
  · refine .intro ?_ (by simp) (by simp)
    intro value hvalue
    obtain rfl := Option.some.inj hvalue
    unfold Conforms
    exact fun _ => ⟨_, rfl⟩
  · obtain rfl := List.mem_singleton.1 hentry
    refine .intro (by simp) (by simp) ?_
    intro item hitem
    obtain rfl := Option.some.inj hitem
    exact .intro (by simp) (by simp) (by simp)

private theorem shape_account :
    account.shape {} [("age", .string "7"), ("role", .string "admin")] = [("age", .ofInt 7)] := by
  have hage : shapeValue {} (.string "7") { typeName := some "int", fallback := some (.ofInt 18) } =
      .ofInt 7 := by
    rw [shapeValue_of_truthy _ _ _ (by decide)]
    rfl
  rw [← hage]
  rfl

/-- An account is confined as a value and as a body, whatever comes with it. -/
theorem account_confined :
    account.Sound ∧
      Conforms (shapeValue {} (.object [("age", .string "7"), ("role", .string "admin")])
        { fields := some account }) { fields := some account } ∧
      ("age", Json.ofInt 7) ∈ account.shape {} [("age", .string "7"), ("role", .string "admin")] ∧
      ∃ f, ("age", f) ∈ account ∧ Conforms (.ofInt 7) f := by
  have hmem : ("age", Json.ofInt 7) ∈
      account.shape {} [("age", .string "7"), ("role", .string "admin")] := by
    rw [shape_account]
    exact List.mem_singleton_self _
  obtain ⟨hvalues, hmembers⟩ := shape_confined {}
  refine ⟨account_sound, hvalues _ ?_ _, hmem, (hmembers _ _ _ _ hmem (by decide)).2 account_sound⟩
  refine .intro (by simp) ?_ (by simp)
  intro fields hfields
  obtain rfl := Option.some.inj hfields
  exact account_sound

end Switchboard
