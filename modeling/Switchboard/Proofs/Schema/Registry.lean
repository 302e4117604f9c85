import Switchboard.Proofs.Schema.Conformance
import Switchboard.Proofs.Schema.Simulation
import Switchboard.Schema.Parsers

/-!
# Registrations only ever add

A registry grows at its end and is searched from its start.  So a type has the parser of the
earliest registration for it (`Registry.find?_registerAll_iff`), and nothing that is registered
later takes the type away.  Names are folded alike when they are registered and when they are looked
up, and a type has one parser under all its spellings.

The names of built-in types are folded in the same way, before a registry is asked at all.  A schema
that names no other types is shaped alike with every registry, also with one that has parsers for
these very names (`Registry.append_only`).
-/

namespace Switchboard

namespace Registry

/-- Registers parsers one after another, each for some names. -/
def registerAll (registry : Registry) (entries : List (List String × TypeParser)) : Registry :=
  entries.foldl (fun acc entry => acc.register entry.1 entry.2) registry

/-- A parser is registered for the type: one of its names is the type's in some letter case. -/
def Claims (entry : List String × TypeParser) (name : String) : Prop :=
  ∃ spelling ∈ entry.1, Text.lowerCase spelling = Text.lowerCase name

/-- The parser is that of the earliest registration for the type. -/
def IsEarliest (entries : List (List String × TypeParser)) (name : String)
    (parser : TypeParser) : Prop :=
  ∃ before names after, entries = before ++ (names, parser) :: after ∧
    Claims (names, parser) name ∧ ∀ entry ∈ before, ¬ Claims entry name

variable {entries : List (List String × TypeParser)} {name : String} {parser : TypeParser}

theorem contains_map_lowerCase_iff {names : List String} :
    (names.map Text.lowerCase).contains (Text.lowerCase name) = true ↔
      Claims (names, parser) name := by
  simp [Claims]

/-- The entries of a registry are the registrations in their order, with their names folded. -/
theorem entries_registerAll (registry : Registry) (entries : List (List String × TypeParser)) :
    (registry.registerAll entries).entries =
      registry.entries ++ entries.map fun entry => (entry.1.map Text.lowerCase, entry.2) := by
  induction entries generalizing registry with
  | nil => exact (List.append_nil _).symm
  | cons entry rest ih =>
      calc (registry.registerAll (entry :: rest)).entries
        _ = ((registry.register entry.1 entry.2).registerAll rest).entries := rfl
        _ = _ := by rw [ih]; simp [register]

theorem registerAll_append (registry : Registry) (earlier later : List (List String × TypeParser)) :
    (registry.registerAll earlier).registerAll later = registry.registerAll (earlier ++ later) :=
  List.foldl_append.symm

/-- The parser of a type is that of the earliest registration for it. -/
theorem find?_registerAll_iff :
    (empty.registerAll entries).find? name = some parser ↔ IsEarliest entries name parser := by
  rw [find?, entries_registerAll, empty, List.nil_append, List.find?_map, Option.map_map,
    Option.map_eq_some_iff]
  simp only [List.find?_eq_some_iff_append, Function.comp_def]
  constructor
  · rintro ⟨⟨names, found⟩, ⟨hclaims, before, after, hentries, hbefore⟩, rfl⟩
    refine ⟨before, names, after, hentries, contains_map_lowerCase_iff.1 hclaims, ?_⟩
    intro entry hentry hclaimed
    have hnot := hbefore entry hentry
    rw [contains_map_lowerCase_iff.2 hclaimed] at hnot
    exact absurd hnot (by decide)
  · rintro ⟨before, names, after, hentries, hclaims, hbefore⟩
    refine ⟨(names, parser), ⟨contains_map_lowerCase_iff.2 hclaims, before, after, hentries, ?_⟩, rfl⟩
    intro entry hentry
    rw [Bool.not_eq_true', ← Bool.not_eq_true]
    exact fun hclaimed => hbefore entry hentry (contains_map_lowerCase_iff.1 hclaimed)

/-- What is the earliest stays the earliest, under every spelling of the type. -/
theorem IsEarliest.append (h : IsEarliest entries name parser)
    (later : List (List String × TypeParser)) {spelling : String}
    (hspelling : Text.lowerCase spelling = Text.lowerCase name) :
    IsEarliest (entries ++ later) spelling parser := by
  have hclaims : ∀ entry, Claims entry spelling ↔ Claims entry name := by
    intro entry
    rw [Claims, Claims, hspelling]
  obtain ⟨before, names, after, rfl, hclaimed, hbefore⟩ := h
  refine ⟨before, names, after ++ later, by simp, (hclaims _).2 hclaimed, fun entry hentry => ?_⟩
  rw [hclaims]
  exact hbefore entry hentry

end Registry

/-! ## Built-in types -/

/-- The names of the types that are built in. -/
def FieldType.builtInNames : List String :=
  ["string", "number", "double", "float", "int", "int64", "array", "object", "date"]

theorem FieldType.ofName_ne_custom {name : String}
    (h : Text.lowerCase name ∈ FieldType.builtInNames) (custom : String) :
    FieldType.ofName name ≠ .custom custom := by
  simp only [builtInNames, List.mem_cons, List.not_mem_nil, or_false] at h
  rcases h with h | h | h | h | h | h | h | h | h <;> simp [ofName, h]

/-- The declaration names built-in types only, in any letter case, at every depth; it may leave
types out. -/
def Field.IsBuiltIn (f : Field) : Prop :=
  ∀ g : Field, g.Within f → ∀ name, g.typeName = some name →
    Text.lowerCase name ∈ FieldType.builtInNames

/-- All declarations of the schema name built-in types only. -/
def Schema.IsBuiltIn (schema : Schema) : Prop := ∀ entry ∈ schema, entry.2.IsBuiltIn

namespace Field.IsBuiltIn

variable {f : Field}

theorem type_ne_custom (h : f.IsBuiltIn) (name : String) : f.type ≠ .custom name := by
  rw [Field.type]
  split
  · rename_i given hgiven
    exact FieldType.ofName_ne_custom (h f .self given hgiven) name
  · split
    · exact FieldType.noConfusion
    · split
      · exact FieldType.noConfusion
      · exact FieldType.noConfusion

theorem item (h : f.IsBuiltIn) {item : Field} (hitem : f.item = some item) : item.IsBuiltIn :=
  fun g hwithin => h g (.item hitem hwithin)

theorem field (h : f.IsBuiltIn) {fields : Schema} (hfields : f.fields = some fields) :
    fields.IsBuiltIn := fun _ hentry g hwithin => h g (.field hfields hentry hwithin)

end Field.IsBuiltIn

theorem Schema.IsBuiltIn.related {schema : Schema} (h : schema.IsBuiltIn) :
    Schema.Related (fun f g => f = g ∧ f.IsBuiltIn) schema schema :=
  List.forall₂_same.2 fun entry hentry => .intro entry.1 ⟨rfl, h entry hentry⟩

/-- Declarations of built-in types come to the same with every two registries. -/
theorem Field.IsBuiltIn.simulates (r₁ r₂ : Registry) :
    Simulates r₁ r₂ fun f g => f = g ∧ f.IsBuiltIn where
  fallback := by
    rintro f _ ⟨rfl, -⟩
    rfl
  agrees := by
    rintro f _ ⟨rfl, h⟩
    by_cases harray : f.type = .array
    · refine .array harray harray ?_
      cases hitem : f.item with
      | none => exact .none
      | some item => exact .some ⟨rfl, h.item hitem⟩
    · by_cases hobject : f.type = .object
      · refine .object hobject hobject ?_
        cases hfields : f.fields with
        | none => exact .none
        | some fields => exact .some (h.field hfields).related
      · exact .whole (shapeValue_of_type_eq rfl harray hobject (.inr h.type_ne_custom))

/--
**Registrations only ever add**: a type that is found has the parser of the earliest registration
for it, and has it still under every spelling when more is registered; and what names built-in types
only is shaped alike with every two registries, whatever they hold.
-/
theorem Registry.append_only :
    (∀ (entries : List (List String × TypeParser)) (name : String) (parser : TypeParser),
      (Registry.empty.registerAll entries).find? name = some parser ↔
        Registry.IsEarliest entries name parser) ∧
    (∀ (entries later : List (List String × TypeParser)) (name : String) (parser : TypeParser),
      (Registry.empty.registerAll entries).find? name = some parser →
        ∀ spelling, Text.lowerCase spelling = Text.lowerCase name →
          ((Registry.empty.registerAll entries).registerAll later).find? spelling = some parser) ∧
    ∀ (r₁ r₂ : Registry) (schema : Schema), schema.IsBuiltIn → ∀ data : Entries Json,
      schema.shape r₁ data = schema.shape r₂ data := by
  refine ⟨fun entries name parser => Registry.find?_registerAll_iff, ?_, ?_⟩
  · intro entries later name parser hfound spelling hspelling
    rw [Registry.registerAll_append, Registry.find?_registerAll_iff]
    exact (Registry.find?_registerAll_iff.1 hfound).append later hspelling
  · intro r₁ r₂ schema h data
    exact (Field.IsBuiltIn.simulates r₁ r₂).shape_eq h.related data

/-- Two parsers for one type, the later one in another spelling. -/
def codeParsers : List (List String × TypeParser) :=
  [(["Code", "Symbol"], .upper), (["CODE"], .const .null)]

/-- Parsers for types that are taken or built in. -/
def lateParsers : List (List String × TypeParser) :=
  [(["symbol"], .fail), (["Int", "string"], .crash)]

/-- A number, and an array of texts. -/
def stock : Schema :=
  [("count", { typeName := some "INT" }), ("tags", { item := some { typeName := some "String" } })]

theorem stock_isBuiltIn : stock.IsBuiltIn := by
  have hplain : ∀ {f : Field}, f.fields = none → f.item = none →
      (∀ name, f.typeName = some name → Text.lowerCase name ∈ FieldType.builtInNames) →
      f.IsBuiltIn := fun hfields hitem hname =>
    Field.forall_within hname (by simp [hfields]) (by simp [hitem])
  intro entry hentry
  simp only [stock, List.mem_cons, List.not_mem_nil, or_false] at hentry
  rcases hentry with rfl | rfl
  · exact hplain rfl rfl (by rintro _ ⟨⟩; decide)
  · refine Field.forall_within (by simp) (by simp) ?_
    rintro _ ⟨⟩
    exact hplain rfl rfl (by rintro _ ⟨⟩; decide)

theorem codeParsers_kept :
    ((Registry.empty.registerAll codeParsers).registerAll lateParsers).find? "SYMBOL" =
        some .upper ∧
      stock.shape (Registry.empty.registerAll lateParsers) [("count", .string "7")] =
        stock.shape {} [("count", .string "7")] := by
  obtain ⟨-, hkept, hshape⟩ := Registry.append_only
  exact ⟨hkept codeParsers lateParsers "Symbol" .upper rfl "SYMBOL" (by decide),
    hshape _ _ stock stock_isBuiltIn _⟩

end Switchboard
