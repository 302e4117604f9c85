import Switchboard.Proofs.Schema.Simulation
import Switchboard.Schema.Parsers

/-!
# Types whose parsers fail

A type that no parser is registered for, and one whose parser refuses every value or crashes on it,
converts nothing: the raw value stays.  A declaration of such a type asks for no more than one
without a type (`shapeValue_of_fails`), and may be exchanged for one wherever it stands, in an
object, in an array or in the fields of either, without a trace anywhere else
(`failing_as_untyped`).

`Field.Relaxed` says which exchanges there are.  It is a simulation, as a declaration that is kept
in its place has the same type as before and opens up into parts that are relaxed again.
-/

namespace Switchboard

/-- No parser is registered for the type, or it has one that refuses every value or crashes on
it. -/
def Registry.Fails (registry : Registry) (name : String) : Prop :=
  ∀ parser, registry.find? name = some parser → ∀ value result,
    parser.parse value (fun w _ => shapeValue registry w) ≠ .parsed result

/-- The second declaration is the first one, in which any declarations whose types fail, at any
depth, have been exchanged for untyped ones with the same default. -/
inductive Field.Relaxed (registry : Registry) : Field → Field → Prop
  | kept (f : Field) : Relaxed registry f f
  | untyped {f g : Field} {name : String} (hcustom : f.type = .custom name)
      (hfails : registry.Fails name) (huntyped : g.type = .untyped)
      (hfallback : f.fallback = g.fallback) : Relaxed registry f g
  | within {f g : Field} (hname : f.typeName = g.typeName) (hfallback : f.fallback = g.fallback)
      (hfields : Option.Rel (List.Forall₂ (Named (Relaxed registry))) f.fields g.fields)
      (hitem : Option.Rel (Relaxed registry) f.item g.item) : Relaxed registry f g

/-- The same for the fields of a schema. -/
def Schema.Relaxed (registry : Registry) : Schema → Schema → Prop :=
  Schema.Related (Field.Relaxed registry)

variable {registry : Registry} {f g : Field} {name : String}

theorem shapeValue_of_untyped (registry : Registry) (h : f.type = .untyped) (value : Json) :
    shapeValue registry value f = value := by
  cases htruthy : value.isTruthy with
  | false => exact shapeValue_of_not_truthy registry htruthy f
  | true => rw [shapeValue_of_truthy registry value f htruthy, h]

/-- Under a type that fails the raw value stays. -/
theorem shapeValue_of_fails (hcustom : f.type = .custom name) (hfails : registry.Fails name)
    (value : Json) : shapeValue registry value f = value := by
  cases htruthy : value.isTruthy with
  | false => exact shapeValue_of_not_truthy registry htruthy f
  | true =>
      rw [shapeValue_of_truthy registry value f htruthy, hcustom]
      dsimp only
      cases hfind : registry.find? name with
      | none => rfl
      | some parser =>
          have hnothing := hfails parser hfind value
          dsimp only
          split
          · rename_i result hresult
            exact absurd hresult (hnothing result)
          · rfl

theorem isSome_eq_of_rel {α β : Type} {R : α → β → Prop} {x : Option α} {y : Option β}
    (h : Option.Rel R x y) : x.isSome = y.isSome := by
  cases h with
  | none => rfl
  | some => rfl

/-- The type depends on the name and on whether there is an inside, not on what it is. -/
theorem Field.type_congr (hname : f.typeName = g.typeName)
    (hfields : f.fields.isSome = g.fields.isSome) (hitem : f.item.isSome = g.item.isSome) :
    f.type = g.type := by
  rw [Field.type, Field.type, hname, hfields, hitem]

/-- Exchanging what fails shapes every value alike. -/
theorem Field.Relaxed.simulates (registry : Registry) :
    Simulates registry registry (Field.Relaxed registry) where
  fallback h := by
    cases h with
    | kept => rfl
    | untyped _ _ _ hfallback => exact hfallback
    | within _ hfallback => exact hfallback
  agrees {f g} h := by
    cases h with
    | kept => exact .whole fun _ => rfl
    | untyped hcustom hfails huntyped =>
        refine .whole fun value => ?_
        rw [shapeValue_of_fails hcustom hfails, shapeValue_of_untyped registry huntyped]
    | within hname _ hfields hitem =>
        have htype := Field.type_congr hname (isSome_eq_of_rel hfields) (isSome_eq_of_rel hitem)
        by_cases harray : g.type = .array
        · exact .array (htype.trans harray) harray hitem
        · by_cases hobject : g.type = .object
          · exact .object (htype.trans hobject) hobject hfields
          · exact .whole (shapeValue_of_type_eq htype harray hobject (.inl rfl))

/--
**A type that fails is no type**: where declarations whose types fail are exchanged for untyped ones
with the same default, in any places and at any depth, every object and every value is shaped as
before; and a value under a type that fails stays as it is.
-/
theorem failing_as_untyped (registry : Registry) :
    (∀ (s t : Schema), Schema.Relaxed registry s t → ∀ data : Entries Json,
      s.shape registry data = t.shape registry data) ∧
    (∀ (f g : Field), f.Relaxed registry g → ∀ value : Json,
      shapeValue registry value f = shapeValue registry value g) ∧
    ∀ (f : Field) (name : String), f.type = .custom name → registry.Fails name →
      ∀ value : Json, shapeValue registry value f = value := by
  have hsimulates := Field.Relaxed.simulates registry
  refine ⟨fun s t h data => hsimulates.shape_eq h data, fun f g h value => ?_, ?_⟩
  · exact hsimulates.shapeValue_eq h value
  · exact fun f name hcustom hfails value => shapeValue_of_fails hcustom hfails value

/-- Parsers for three types, of which the first refuses every value and the second crashes. -/
def brokenParsers : Registry :=
  ((Registry.empty.register ["money"] .fail).register ["point"] .crash).register ["code"] .upper

/-- A place with a point and a code. -/
def place : Schema :=
  [("at", { typeName := some "POINT" }), ("code", { typeName := some "Code" })]

/-- A shop with a price, places, and a shade of a type that has no parser. -/
def shop : Schema :=
  [("price", { typeName := some "Money", fallback := some (.ofInt 1) }),
    ("places", { item := some { fields := some place } }), ("shade", { typeName := some "hue" })]

/-- The place without the type that fails. -/
def plainPlace : Schema := [("at", {}), ("code", { typeName := some "Code" })]

/-- The shop without the types that fail. -/
def plainShop : Schema :=
  [("price", { fallback := some (.ofInt 1) }),
    ("places", { item := some { fields := some plainPlace } }), ("shade", {})]

theorem shop_relaxed : Schema.Relaxed brokenParsers shop plainShop := by
  have hmoney : brokenParsers.Fails "Money" := by
    intro parser hfind value result
    obtain rfl : TypeParser.fail = parser := Option.some.inj hfind
    exact fun h => nomatch h
  have hpoint : brokenParsers.Fails "POINT" := by
    intro parser hfind value result
    obtain rfl : TypeParser.crash = parser := Option.some.inj hfind
    exact fun h => nomatch h
  have hhue : brokenParsers.Fails "hue" := fun _ hfind => nomatch hfind
  have hplace : Field.Relaxed brokenParsers { fields := some place }
      { fields := some plainPlace } :=
    .within rfl rfl (.some (.cons (.intro "at" (.untyped rfl hpoint rfl rfl))
      (.cons (.intro "code" (.kept _)) .nil))) .none
  exact .cons (.intro "price" (.untyped rfl hmoney rfl rfl))
    (.cons (.intro "places" (.within rfl rfl .none (.some hplace)))
      (.cons (.intro "shade" (.untyped rfl hhue rfl rfl)) .nil))

/-- A refusal, a crash and a missing parser at two depths, beside a parser that works. -/
theorem shop_shaped :
    Schema.Relaxed brokenParsers shop plainShop ∧
      shop.shape brokenParsers
          [("places", .array [.object [("at", .string "1,2"), ("code", .string "ab")]]),
            ("shade", .string "red")] =
        [("places", .array [.object [("at", .string "1,2"), ("code", .string "AB")]]),
          ("shade", .string "red"), ("price", .ofInt 1)] := by
  refine ⟨shop_relaxed, ?_⟩
  rw [(failing_as_untyped brokenParsers).1 _ _ shop_relaxed]
  have huntyped : ∀ s, shapeValue brokenParsers (.string s) {} = .string s := fun s =>
    shapeValue_of_untyped brokenParsers rfl (.string s)
  have hcode : shapeValue brokenParsers (.string "ab") { typeName := some "Code" } =
      .string "AB" := by
    rw [shapeValue_of_truthy _ _ _ (by decide)]
    rfl
  have hplace : shapeValue brokenParsers (.object [("at", .string "1,2"), ("code", .string "ab")])
      { fields := some plainPlace } = .object [("at", .string "1,2"), ("code", .string "AB")] := by
    rw [shapeValue_of_truthy _ _ _ (by decide)]
    show Json.object [("at", shapeValue brokenParsers (.string "1,2") {}),
      ("code", shapeValue brokenParsers (.string "ab") { typeName := some "Code" })] = _
    rw [huntyped, hcode]
  have hplaces : shapeValue brokenParsers
      (.array [.object [("at", .string "1,2"), ("code", .string "ab")]])
      { item := some { fields := some plainPlace } } =
      .array [.object [("at", .string "1,2"), ("code", .string "AB")]] := by
    rw [shapeValue_of_truthy _ _ _ (by decide), ← hplace]
    rfl
  show [("places", shapeValue brokenParsers _ { item := some { fields := some plainPlace } }),
    ("shade", shapeValue brokenParsers (.string "red") {}), ("price", .ofInt 1)] = _
  rw [hplaces, huntyped]

end Switchboard
