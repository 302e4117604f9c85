import Switchboard.Proofs.Client.Prepare
import Switchboard.Proofs.Entries
import Switchboard.Proofs.Url.Form

/-!
# Arguments in the query and in the body

An argument that counts as given is sent under its name, in the place of an
omitted one the default is, and nothing is sent under a name that is not declared
(`gives_arguments`, `Omits.gives_arguments`, `mem_keys_arguments`).  The pairs of
the query come back as they were added, behind those of the base URL
(`readPairs_addPairs`).
-/

namespace Switchboard

namespace Action

variable {a : Action} {schema : Schema} {given : List Json} {name : String} {value : Json}

/-- A name that stands once among the parameters has the argument at its position. -/
theorem argument_eq_some {i : Nat} (hnodup : a.parameters.Nodup)
    (hname : a.parameters[i]? = some name) (hvalue : given[i]? = some value)
    (htruthy : value.isTruthy = true) (f : Field) : a.argument given name f = some value := by
  obtain ⟨hlt, hget⟩ := List.getElem?_eq_some_iff.1 hname
  have hindex : a.parameters.idxOf? name = some i := by
    refine List.idxOf?_eq_some_iff.2 ⟨hlt, hget, fun j hj heq => ?_⟩
    have hsame : a.parameters[i]? = a.parameters[j]? := by
      rw [hname, List.getElem?_eq_getElem (by omega), heq]
    have hij := (List.getElem?_inj hlt hnodup).1 hsame
    omega
  simp [argument, hindex, hvalue, htruthy]

theorem mem_arguments {v : Json} (h : (name, v) ∈ a.arguments schema given) :
    ∃ f, (name, f) ∈ schema ∧ a.argument given name f = some v := by
  obtain ⟨⟨n, f⟩, hmem, hsome⟩ := List.mem_filterMap.1 h
  obtain ⟨w, hw, heq⟩ := Option.map_eq_some_iff.1 hsome
  obtain ⟨rfl, rfl⟩ := Prod.mk.inj heq
  exact ⟨f, hmem, hw⟩

theorem mem_keys_arguments (h : name ∈ Entries.keys (a.arguments schema given)) :
    name ∈ Entries.keys schema := by
  obtain ⟨v, hv⟩ := Entries.exists_of_mem_keys h
  obtain ⟨f, hf, -⟩ := mem_arguments hv
  exact Entries.mem_keys_of_mem hf

/-- A declared name is sent once if all its declarations lead to one value. -/
theorem gives_arguments_of_forall (hdeclared : name ∈ Entries.keys schema)
    (h : ∀ f, (name, f) ∈ schema → a.argument given name f = some value) :
    Entries.Gives (a.arguments schema given) name value := by
  constructor
  · obtain ⟨f, hf⟩ := Entries.exists_of_mem_keys hdeclared
    refine @Entries.mem_keys_of_mem _ _ _ value (List.mem_filterMap.2 ⟨(name, f), hf, ?_⟩)
    dsimp only
    rw [h f hf, Option.map_some]
  · intro other hother
    obtain ⟨f, hf, hsome⟩ := mem_arguments hother
    rw [h f hf] at hsome
    exact (Option.some.inj hsome).symm

/-- A declared argument is sent as it is given. -/
theorem gives_arguments {i : Nat} (hnodup : a.parameters.Nodup)
    (hname : a.parameters[i]? = some name) (hvalue : given[i]? = some value)
    (htruthy : value.isTruthy = true) (hdeclared : name ∈ Entries.keys schema) :
    Entries.Gives (a.arguments schema given) name value :=
  gives_arguments_of_forall hdeclared fun f _ => argument_eq_some hnodup hname hvalue htruthy f

/-- No argument of the name counts as given. -/
def Omits (a : Action) (given : List Json) (name : String) : Prop :=
  ∀ value, (a.parameters.idxOf? name).bind (given[·]?) = some value → value.isTruthy = false

theorem Omits.argument_eq (h : a.Omits given name) (f : Field) :
    a.argument given name f = f.fallback := by
  unfold argument
  split
  · rename_i value hvalue
    rw [if_neg (by simp [h value hvalue])]
  · rfl

/-- In the place of an omitted argument the default is sent. -/
theorem Omits.gives_arguments (h : a.Omits given name) {f : Field}
    (hdeclared : Entries.Gives schema name f) (hfallback : f.fallback = some value) :
    Entries.Gives (a.arguments schema given) name value :=
  gives_arguments_of_forall hdeclared.1 fun g hg => by
    rw [h.argument_eq, hdeclared.2 g hg, hfallback]

end Action

namespace Url

/-- The query as a server reads it: an object of texts. -/
def queryValue (u : Url) : Json :=
  .object (Entries.ofPairs ((readPairs (u.query.getD [])).map fun (name, value) =>
    (name, Json.string value)))

/-- Pairs that are added stand behind the pairs of a query. -/
theorem readPairs_addPairs (u : Url) (pairs : List (String × String)) :
    readPairs ((u.addPairs pairs).query.getD []) = readPairs (u.query.getD []) ++ pairs := by
  unfold addPairs
  split
  · rename_i hnil
    rw [hnil, List.append_nil]
  · match hquery : u.query with
    | none | some [] => exact readPairs_formPairs pairs
    | some (c :: query) =>
        show readPairs ((c :: query) ++ '&' :: formPairs pairs) = readPairs (c :: query) ++ pairs
        conv => rhs; rw [← readPairs_formPairs pairs]
        simp only [readPairs, Text.parts_append_cons, List.map_append]

end Url

/-! ## What a server receives -/

namespace Action

variable {a : Action} {given : List Json} {r : Prepared} {name : String} {value : Json}

/-- The arguments in the query come over the query of the base URL. -/
theorem members_queryValue (h : a.prepare given = .ok r) :
    r.url.queryValue.members = Entries.merge a.base.queryValue.members
      ((a.arguments (a.inputs.query.getD []) given).map fun entry =>
        (entry.1, Json.string (String.ofList entry.2.plainText))) := by
  obtain ⟨-, -, -, ss, texts, -, -, hurl⟩ := prepare_ok h
  have hread : Url.readPairs (r.url.query.getD []) =
      Url.readPairs (a.base.query.getD []) ++ a.queryPairs given := by
    rw [hurl, Url.readPairs_addPairs]
  rw [Url.queryValue, Json.members, hread, queryPairs, List.map_append, List.map_map,
    Entries.ofPairs, Entries.merge, List.foldl_append]
  rfl

/-- A value of the query arrives as plain text. -/
theorem get?_queryValue_of_gives (h : a.prepare given = .ok r)
    (hgives : Entries.Gives (a.arguments (a.inputs.query.getD []) given) name value) :
    Entries.get? r.url.queryValue.members name =
      some (.string (String.ofList value.plainText)) := by
  rw [members_queryValue h]
  exact (hgives.map fun v => Json.string (String.ofList v.plainText)).get?_merge _

/-- An argument of the query arrives as plain text. -/
theorem get?_queryValue (h : a.prepare given = .ok r) {i : Nat}
    (hnodup : a.parameters.Nodup) (hname : a.parameters[i]? = some name)
    (hvalue : given[i]? = some value) (htruthy : value.isTruthy = true)
    (hdeclared : name ∈ Entries.keys (a.inputs.query.getD [])) :
    Entries.get? r.url.queryValue.members name =
      some (.string (String.ofList value.plainText)) :=
  get?_queryValue_of_gives h (gives_arguments hnodup hname hvalue htruthy hdeclared)

theorem notMem_keys_queryValue (h : a.prepare given = .ok r) (hquery : a.base.query.getD [] = [])
    (hundeclared : name ∉ Entries.keys (a.inputs.query.getD [])) :
    name ∉ Entries.keys r.url.queryValue.members := by
  have hbase : a.base.queryValue.members = [] := by
    rw [Url.queryValue, Json.members, hquery]
    rfl
  rw [members_queryValue h, hbase, ← Entries.get?_eq_none_iff, Entries.get?_merge_of_notMem,
    Entries.get?_nil]
  intro hmem
  obtain ⟨v, hv⟩ := Entries.exists_of_mem_keys hmem
  obtain ⟨⟨n, w⟩, hw, heq⟩ := List.mem_map.1 hv
  obtain ⟨rfl, -⟩ := Prod.mk.inj heq
  exact hundeclared (mem_keys_arguments (Entries.mem_keys_of_mem hw))

/-- A value of the body arrives as it is. -/
theorem gives_body_of_gives (h : a.prepare given = .ok r)
    (hgives : Entries.Gives (a.arguments (a.inputs.body.getD []) given) name value)
    (hverb : a.verb.carriesBody = true) :
    Entries.Gives (r.body.getD .null).members name value := by
  obtain ⟨-, -, hbody, -⟩ := prepare_ok h
  cases hschema : a.inputs.body with
  | none => simp [hschema, arguments, Entries.Gives, Entries.keys] at hgives
  | some schema =>
      rw [hschema, Option.getD_some] at hgives
      have hmade : r.body = some (.object (a.arguments schema given)) := by
        rw [hbody, body, hschema]
        simp only [hverb, if_true]
      rw [hmade]
      exact hgives

/-- An argument of the body arrives as it is. -/
theorem gives_body (h : a.prepare given = .ok r) {i : Nat} (hnodup : a.parameters.Nodup)
    (hname : a.parameters[i]? = some name) (hvalue : given[i]? = some value)
    (htruthy : value.isTruthy = true) (hdeclared : name ∈ Entries.keys (a.inputs.body.getD []))
    (hverb : a.verb.carriesBody = true) :
    Entries.Gives (r.body.getD .null).members name value :=
  gives_body_of_gives h (gives_arguments hnodup hname hvalue htruthy hdeclared) hverb

theorem notMem_keys_body (h : a.prepare given = .ok r)
    (hundeclared : name ∉ Entries.keys (a.inputs.body.getD [])) :
    name ∉ Entries.keys (r.body.getD .null).members := by
  obtain ⟨-, -, hbody, -⟩ := prepare_ok h
  rw [hbody, body]
  split
  · rename_i schema hschema
    rw [hschema, Option.getD_some] at hundeclared
    split
    · exact fun hmem => hundeclared (mem_keys_arguments hmem)
    · simp [Json.members, Entries.keys]
  · simp [Json.members, Entries.keys]

end Action

end Switchboard
