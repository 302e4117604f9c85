import Mathlib.Data.List.Nodup
import Switchboard.Proofs.Schema.Shape

/-!
# Shaping name by name

An object can be shaped in place: take down the names that it has and then the names that only the
schema has, and visit one after the other.  A visit converts the member of its name, drops it or
puts in the default, all in the map that the walk is on (`Schema.visit`).

What comes of a name depends on what the schema and the object have under it and on nothing else
(`Schema.outcome`).  The walk comes to the object of these outcomes, in the order of the names that
were taken down, and so does shaping (`Schema.walk_eq_tabulate`, `Schema.shape_eq_tabulate`).
-/

namespace Switchboard

/-! ## Maps made from names -/

namespace Entries

variable {α : Type u}

/-- The map that gives the names their values, in the order of the names; a name may have none. -/
def tabulate (names : List String) (value : String → Option α) : Entries α :=
  names.filterMap fun key => (value key).map fun v => (key, v)

variable {names : List String} {value : String → Option α}

theorem tabulate_cons (key : String) :
    tabulate (key :: names) value =
      ((value key).map fun v => (key, v)).toList ++ tabulate names value := by
  cases h : value key with
  | none => simp [tabulate, h]
  | some v => simp [tabulate, h]

theorem tabulate_append (others : List String) :
    tabulate (names ++ others) value = tabulate names value ++ tabulate others value :=
  List.filterMap_append

theorem tabulate_eq_nil (h : ∀ key ∈ names, value key = none) : tabulate names value = [] := by
  rw [tabulate, List.filterMap_eq_nil_iff]
  intro key hkey
  rw [h key hkey, Option.map_none]

theorem keys_tabulate :
    keys (tabulate names value) = names.filter fun key => (value key).isSome := by
  induction names with
  | nil => rfl
  | cons key rest ih =>
      rw [tabulate_cons]
      cases h : value key with
      | none => simpa [keys, h] using ih
      | some v => simpa [keys, h] using ih

theorem get?_tabulate (key : String) :
    get? (tabulate names value) key = if key ∈ names then value key else none := by
  induction names with
  | nil => rfl
  | cons name rest ih =>
      rw [tabulate_cons, get?_append, ih]
      by_cases hname : name = key
      · subst hname
        cases value name with
        | none => simp
        | some v => simp [get?]
      · have hne : ¬ key = name := fun h => hname h.symm
        cases value name with
        | none => simp [hne]
        | some v => simp [get?, hname, hne]

/-- A map is made from its names. -/
theorem Distinct.tabulate_keys {m : Entries α} (h : Distinct m) :
    tabulate (keys m) (get? m) = m := by
  have hentry : ∀ entry ∈ m, (get? m entry.1).map (fun v => (entry.1, v)) = some entry := by
    intro entry hmem
    rw [h.get?_of_mem hmem, Option.map_some]
  rw [tabulate, keys, List.filterMap_map]
  calc m.filterMap ((fun key => (get? m key).map fun v => (key, v)) ∘ fun entry => entry.1)
    _ = m.filterMap some := List.filterMap_congr hentry
    _ = m := List.filterMap_some

end Entries

namespace Schema

open Entries

variable {registry : Registry} {schema : Schema} {data : Entries Json}

/-! ## The outcome of a name -/

/-- What a shaped object has under a name.  A value that counts as given is converted if the name is
declared, and is gone if not; any other value stays; and where no value is given, not even `null`,
the default comes in. -/
def outcome (registry : Registry) (declared : Option Field) (given : Option Json) : Option Json :=
  match given with
  | some value =>
    if value.isTruthy then declared.map (shapeValue registry value) else some value
  | none => declared.bind (·.fallback)

theorem map_outcome_some (key : String) (value : Json) :
    (outcome registry (get? schema key) (some value)).map (fun result => (key, result)) =
      shapeMember schema key value (shapeValue registry value) := by
  rw [outcome, shapeMember]
  split
  · rw [Option.map_map]
    rfl
  · rfl

/-- The names of an object, and after them those that only the schema has. -/
def names (schema : Schema) (data : Entries Json) : List String :=
  keys data ++ (keys schema).filter fun key => !has data key

theorem mem_names_iff {key : String} :
    key ∈ names schema data ↔ key ∈ keys data ∨ key ∈ keys schema := by
  have hhas : has data key = true ↔ key ∈ keys data := get?_isSome_iff
  rw [names, List.mem_append, List.mem_filter, Bool.not_eq_true', ← Bool.not_eq_true, hhas]
  tauto

theorem get?_of_mem_filter {key : String}
    (h : key ∈ (keys schema).filter fun key => !has data key) : get? data key = none := by
  simpa [has] using (List.mem_filter.1 h).2

theorem nodup_names (hschema : Distinct schema) (hdata : Distinct data) :
    (names schema data).Nodup := by
  rw [names, List.nodup_append']
  refine ⟨hdata, List.Nodup.filter _ hschema, ?_⟩
  intro key hkey hmissing
  exact get?_eq_none_iff.1 (get?_of_mem_filter hmissing) hkey

/-- Shaping gives each name its outcome, and leaves the names in order. -/
theorem shape_eq_tabulate (registry : Registry) (hschema : Distinct schema)
    (hdata : Distinct data) :
    shape registry schema data =
      tabulate (names schema data) fun key =>
        outcome registry (get? schema key) (get? data key) := by
  rw [names, tabulate_append, shape]
  congr 1
  · rw [tabulate, keys, List.filterMap_map]
    apply List.filterMap_congr
    intro entry hentry
    rw [Function.comp_apply, hdata.get?_of_mem hentry, map_outcome_some]
  · rw [tabulate, List.filterMap_filter, keys, List.filterMap_map, missingDefaults]
    apply List.filterMap_congr
    rintro ⟨key, f⟩ hentry
    rw [Function.comp_apply, hschema.get?_of_mem hentry]
    cases h : get? data key with
    | none => simp [has, h, outcome]
    | some value => simp [has, h]

theorem get?_shape (registry : Registry) (hschema : Distinct schema) (hdata : Distinct data)
    (key : String) :
    get? (shape registry schema data) key =
      outcome registry (get? schema key) (get? data key) := by
  rw [shape_eq_tabulate registry hschema hdata, get?_tabulate]
  split
  · rfl
  · rename_i hkey
    rw [mem_names_iff, not_or] at hkey
    rw [get?_eq_none_iff.2 hkey.1, get?_eq_none_iff.2 hkey.2]
    rfl

/-! ## Shaping in place -/

/-- Shapes one name in a map: converts its member, drops it, or puts in the default. -/
def visit (registry : Registry) (schema : Schema) (members : Entries Json) (key : String) :
    Entries Json :=
  match get? schema key, get? members key with
  | some f, some value =>
    if value.isTruthy then set members key (shapeValue registry value f) else members
  | some f, none =>
    match f.fallback with
    | some value => set members key value
    | none => members
  | none, some value =>
    if value.isTruthy then members.eraseP fun entry => entry.1 == key else members
  | none, none => members

/-- Shapes an object in place, name by name. -/
def walk (registry : Registry) (schema : Schema) (data : Entries Json) : Entries Json :=
  (names schema data).foldl (visit registry schema) data

/-- A visit to a name that has a member leaves the outcome in its place. -/
theorem visit_of_given {key : String} {done : Entries Json} (hdone : key ∉ keys done)
    (value : Json) (rest : Entries Json) :
    visit registry schema (done ++ (key, value) :: rest) key =
      done ++ (((outcome registry (get? schema key) (some value)).map
        fun result => (key, result)).toList ++ rest) := by
  have hget : get? (done ++ (key, value) :: rest) key = some value := by
    rw [get?_append, get?_eq_none_iff.2 hdone, Option.none_or, get?, if_pos rfl]
  have herase : (done ++ (key, value) :: rest).eraseP (fun entry => entry.1 == key) =
      done ++ rest := by
    rw [List.eraseP_append_right, List.eraseP_cons_of_pos (by simp)]
    intro entry hentry heq
    exact hdone (beq_iff_eq.1 heq ▸ mem_keys_of_mem hentry)
  rw [visit, outcome, hget]
  cases hf : get? schema key with
  | none =>
      cases htruthy : value.isTruthy with
      | true => simpa [htruthy] using herase
      | false => simp [htruthy]
  | some f =>
      cases htruthy : value.isTruthy with
      | true => simpa [htruthy] using set_append_cons hdone value _ rest
      | false => simp [htruthy]

/-- A visit to a name without a member adds the outcome at the end. -/
theorem visit_of_absent {key : String} {members : Entries Json} (h : key ∉ keys members) :
    visit registry schema members key =
      members ++ ((outcome registry (get? schema key) none).map
        fun result => (key, result)).toList := by
  rw [visit, outcome, get?_eq_none_iff.2 h]
  cases hf : get? schema key with
  | none => exact (List.append_nil _).symm
  | some f =>
      cases hfallback : f.fallback with
      | none => simp [hfallback]
      | some value => simpa [hfallback] using set_of_notMem h value

/-- Behind the names that were visited stand the members of the names to come; names without a
member come last. -/
theorem foldl_visit (registry : Registry) (schema : Schema) {given : String → Option Json}
    {order : List String} (done : Entries Json)
    (hnodup : order.Nodup) (hdone : ∀ key ∈ order, key ∉ keys done)
    (hlast : order.Pairwise fun first later => given first = none → given later = none) :
    order.foldl (visit registry schema) (done ++ tabulate order given) =
      done ++ tabulate order fun key => outcome registry (get? schema key) (given key) := by
  induction order generalizing done with
  | nil => rfl
  | cons key rest ih =>
      rw [List.nodup_cons] at hnodup
      rw [List.pairwise_cons] at hlast
      have hkey := hdone key List.mem_cons_self
      have hvisit : visit registry schema (done ++ tabulate (key :: rest) given) key =
          (done ++ ((outcome registry (get? schema key) (given key)).map
            fun result => (key, result)).toList) ++ tabulate rest given := by
        rw [tabulate_cons, List.append_assoc]
        cases hgiven : given key with
        | some value => exact visit_of_given hkey value _
        | none =>
            rw [tabulate_eq_nil fun later hlater => hlast.1 later hlater hgiven, List.append_nil]
            simpa using visit_of_absent hkey
      rw [List.foldl_cons, hvisit, ih _ hnodup.2 ?_ hlast.2, tabulate_cons, List.append_assoc]
      intro later hlater hmem
      rw [keys, List.map_append, List.mem_append] at hmem
      rcases hmem with hmem | hmem
      · exact hdone later (List.mem_cons_of_mem _ hlater) hmem
      · obtain ⟨entry, hentry, rfl⟩ := List.mem_map.1 hmem
        obtain ⟨result, -, heq⟩ := Option.map_eq_some_iff.1 (Option.mem_toList.1 hentry)
        rw [← heq] at hlater
        exact hnodup.1 hlater

/-- The walk gives each name its outcome, and leaves the names in order. -/
theorem walk_eq_tabulate (registry : Registry) (hschema : Distinct schema)
    (hdata : Distinct data) :
    walk registry schema data =
      tabulate (names schema data) fun key =>
        outcome registry (get? schema key) (get? data key) := by
  have hstart : tabulate (names schema data) (get? data) = data := by
    rw [names, tabulate_append, hdata.tabulate_keys,
      tabulate_eq_nil fun key hkey => get?_of_mem_filter hkey, List.append_nil]
  have hlast : (names schema data).Pairwise fun first later =>
      get? data first = none → get? data later = none := by
    rw [names, List.pairwise_append]
    refine ⟨List.Pairwise.imp_of_mem ?_ hdata, List.pairwise_of_forall_mem_list ?_, ?_⟩
    · intro first later hfirst _ _ hnone
      exact absurd hfirst (get?_eq_none_iff.1 hnone)
    · intro first _ later hlater _
      exact get?_of_mem_filter hlater
    · intro first _ later hlater _
      exact get?_of_mem_filter hlater
  have hfold := foldl_visit registry schema []
    (nodup_names hschema hdata) (fun key _ => List.not_mem_nil) hlast
  rw [List.nil_append, List.nil_append, hstart] at hfold
  exact hfold

/--
**Shaping goes name by name**: what a shaped object has under a name is the outcome of what is
declared and what is given under that name, whatever stands under the others.  Members that are
left keep their order, defaults follow in the order of the schema, and the walk that shapes an
object in place comes to the same object.
-/
theorem shape_memberwise (registry : Registry) {schema : Schema} {data : Entries Json}
    (hschema : Distinct schema) (hdata : Distinct data) :
    walk registry schema data = shape registry schema data ∧
    Distinct (shape registry schema data) ∧
    (keys (shape registry schema data) = (names schema data).filter fun key =>
      (outcome registry (get? schema key) (get? data key)).isSome) ∧
    (∀ key, get? (shape registry schema data) key =
      outcome registry (get? schema key) (get? data key)) ∧
    ∀ (schema' : Schema) (data' : Entries Json), Distinct schema' → Distinct data' →
      ∀ key, get? schema' key = get? schema key → get? data' key = get? data key →
        get? (shape registry schema' data') key = get? (shape registry schema data) key := by
  have hshape := shape_eq_tabulate registry hschema hdata
  have hkeys : keys (shape registry schema data) = (names schema data).filter fun key =>
      (outcome registry (get? schema key) (get? data key)).isSome := by
    rw [hshape, keys_tabulate]
  refine ⟨(walk_eq_tabulate registry hschema hdata).trans hshape.symm, ?_, hkeys,
    get?_shape registry hschema hdata, ?_⟩
  · rw [Distinct, hkeys]
    exact (nodup_names hschema hdata).filter _
  · intro schema' data' hschema' hdata' key hdeclared hgiven
    rw [get?_shape registry hschema' hdata', get?_shape registry hschema hdata, hdeclared, hgiven]

/-- A search: a number of results, an order that has a default, and a place to go on from. -/
def search : Schema :=
  [("id", { typeName := some "int" }),
    ("limit", { typeName := some "int", fallback := some (.ofInt 20) }),
    ("sort", { typeName := some "string", fallback := some (.string "asc") }),
    ("cursor", { fallback := some .null }), ("filter", { typeName := some "string" })]

/-- A query for it, with a name that the search does not know. -/
def query : Entries Json :=
  [("limit", .ofInt 0), ("debug", .string "on"), ("id", .string "7"), ("note", .string "")]

/-- Every outcome that there is, in one search. -/
theorem search_memberwise :
    Distinct search ∧ Distinct query ∧ walk {} search query = shape {} search query ∧
      keys (shape {} search query) = ["limit", "id", "note", "sort", "cursor"] ∧
      get? (shape {} search query) "id" = some (.ofInt 7) ∧
      get? (shape {} search query) "limit" = some (.ofInt 0) ∧
      get? (shape {} search query) "debug" = none ∧
      get? (shape {} search query) "cursor" = some .null ∧
      get? (shape {} search [("id", .string "7")]) "id" = get? (shape {} search query) "id" := by
  have hsearch : Distinct search := by
    unfold Distinct
    decide
  have hquery : Distinct query := by
    unfold Distinct
    decide
  have hother : Distinct [("id", Json.string "7")] := by
    unfold Distinct
    decide
  have hseven : shapeValue {} (.string "7") { typeName := some "int" } = .ofInt 7 := by
    rw [shapeValue_of_truthy _ _ _ (by decide)]
    rfl
  obtain ⟨hwalk, -, hkeys, hget, hapart⟩ := shape_memberwise {} hsearch hquery
  refine ⟨hsearch, hquery, hwalk, hkeys, ?_, hget "limit", hget "debug", hget "cursor",
    hapart search _ hsearch hother "id" rfl rfl⟩
  rw [← hseven]
  exact hget "id"

end Schema

end Switchboard
