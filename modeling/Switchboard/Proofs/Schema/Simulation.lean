import Mathlib.Data.List.Forall2
import Switchboard.Proofs.Schema.Shape

/-!
# Declarations that shape alike

Two schemas need not be equal to shape every object alike, and neither need the registries that
they are used with.  A relation between declarations is a simulation if declarations in it have the
same default and either shape every value alike themselves or open up into parts that are related
again (`Simulates`).  Related declarations then shape every value alike, however deep the parts lie
(`Simulates.shapeValue_eq`), and so do schemas that are related name by name
(`Simulates.shape_eq`).

The induction is on the value.  A declaration is only opened where the value is, so schemas that
differ in parts of no value make no trouble.
-/

namespace Switchboard

/-- Two entries of one name whose declarations are related. -/
inductive Named (R : Field → Field → Prop) : String × Field → String × Field → Prop
  | intro (name : String) {f g : Field} (h : R f g) : Named R (name, f) (name, g)

/-- The same names in the same order, with declarations that are related. -/
def Schema.Related (R : Field → Field → Prop) : Schema → Schema → Prop := List.Forall₂ (Named R)

/-- The declarations shape every value alike, each with its own registry, or they open up into
related parts. -/
inductive Field.Agrees (r₁ r₂ : Registry) (R : Field → Field → Prop) (f g : Field) : Prop
  | whole (h : ∀ value, shapeValue r₁ value f = shapeValue r₂ value g)
  | array (hf : f.type = .array) (hg : g.type = .array) (hitem : Option.Rel R f.item g.item)
  | object (hf : f.type = .object) (hg : g.type = .object)
      (hfields : Option.Rel (Schema.Related R) f.fields g.fields)

/-- Related declarations have the same default, and agree up to the relation. -/
structure Simulates (r₁ r₂ : Registry) (R : Field → Field → Prop) : Prop where
  fallback : ∀ {f g}, R f g → f.fallback = g.fallback
  agrees : ∀ {f g}, R f g → f.Agrees r₁ r₂ R g

variable {r₁ r₂ : Registry} {R : Field → Field → Prop} {s t : Schema}

namespace Schema

theorem Related.get? (h : Related R s t) (key : String) :
    Option.Rel R (Entries.get? s key) (Entries.get? t key) := by
  induction h with
  | nil => exact .none
  | cons hentry _ ih =>
      obtain ⟨name, hfg⟩ := hentry
      rw [Entries.get?, Entries.get?]
      split
      · exact .some hfg
      · exact ih

theorem Related.missingDefaults_eq (h : Related R s t)
    (hfallback : ∀ {f g}, R f g → f.fallback = g.fallback) (data : Entries Json) :
    missingDefaults s data = missingDefaults t data := by
  unfold missingDefaults
  induction h with
  | nil => rfl
  | cons hentry _ ih =>
      obtain ⟨name, hfg⟩ := hentry
      rw [List.filterMap_cons, List.filterMap_cons, ih]
      dsimp only
      rw [hfallback hfg]

/-- If related declarations shape the values of the members alike, then so do the schemas the
object. -/
theorem Related.shape_eq_of_forall (h : Related R s t)
    (hfallback : ∀ {f g}, R f g → f.fallback = g.fallback) {data : Entries Json}
    (hvalues : ∀ entry ∈ data, ∀ f g, R f g →
      shapeValue r₁ entry.2 f = shapeValue r₂ entry.2 g) :
    shape r₁ s data = shape r₂ t data := by
  unfold shape
  rw [h.missingDefaults_eq hfallback]
  congr 1
  refine List.filterMap_congr fun ⟨key, value⟩ hentry => ?_
  dsimp only
  unfold shapeMember
  split
  · have hget := h.get? key
    generalize Entries.get? s key = x, Entries.get? t key = y at hget ⊢
    cases hget with
    | none => rfl
    | some hfg => exact congrArg some (congrArg (Prod.mk key) (hvalues _ hentry _ _ hfg))
  · rfl

end Schema

/-- What does not open up is shaped by its type alone; the registry only counts for types that are
not built in. -/
theorem shapeValue_of_type_eq {f g : Field} (h : f.type = g.type) (harray : g.type ≠ .array)
    (hobject : g.type ≠ .object) (hcustom : r₁ = r₂ ∨ ∀ name, g.type ≠ .custom name)
    (value : Json) : shapeValue r₁ value f = shapeValue r₂ value g := by
  cases htruthy : value.isTruthy with
  | false => rw [shapeValue_of_not_truthy r₁ htruthy, shapeValue_of_not_truthy r₂ htruthy]
  | true =>
      rw [shapeValue_of_truthy r₁ value f htruthy, shapeValue_of_truthy r₂ value g htruthy, h]
      cases htype : g.type with
      | array => exact absurd htype harray
      | object => exact absurd htype hobject
      | custom name =>
          obtain rfl := hcustom.resolve_right fun hnone => hnone name htype
          rfl
      | string | number | int | date | untyped => rfl

/-- Related declarations shape every value alike. -/
theorem Simulates.shapeValue_eq (hR : Simulates r₁ r₂ R) {f g : Field} (h : R f g) (value : Json) :
    shapeValue r₁ value f = shapeValue r₂ value g := by
  cases htruthy : value.isTruthy with
  | false => rw [shapeValue_of_not_truthy r₁ htruthy, shapeValue_of_not_truthy r₂ htruthy]
  | true =>
      cases hR.agrees h with
      | whole hwhole => exact hwhole value
      | array hf hg hitem =>
          rw [shapeValue_of_truthy r₁ value f htruthy, shapeValue_of_truthy r₂ value g htruthy, hf,
            hg]
          cases value with
          | array items =>
              generalize f.item = x, g.item = y at hitem ⊢
              cases hitem with
              | none => rfl
              | some hitems =>
                  refine congrArg Json.array (List.map_congr_left fun w hw => ?_)
                  exact hR.shapeValue_eq hitems w
          | null | bool | number | string | object => rfl
      | object hf hg hfields =>
          rw [shapeValue_of_truthy r₁ value f htruthy, shapeValue_of_truthy r₂ value g htruthy, hf,
            hg]
          cases value with
          | object members =>
              generalize f.fields = x, g.fields = y at hfields ⊢
              cases hfields with
              | none => rfl
              | some hrelated =>
                  refine congrArg Json.object
                    (hrelated.shape_eq_of_forall hR.fallback fun entry hentry _ _ hinner => ?_)
                  exact hR.shapeValue_eq hinner entry.2
          | null | bool | number | string | array => rfl
termination_by value.size
decreasing_by
  · exact Json.size_lt_of_mem_array hw
  · exact Json.size_lt_of_mem_object hentry

/-- Schemas that are related name by name shape every object alike. -/
theorem Simulates.shape_eq (hR : Simulates r₁ r₂ R) (h : Schema.Related R s t)
    (data : Entries Json) : s.shape r₁ data = t.shape r₂ data :=
  h.shape_eq_of_forall hR.fallback fun entry _ _ _ hfg => hR.shapeValue_eq hfg entry.2

end Switchboard
