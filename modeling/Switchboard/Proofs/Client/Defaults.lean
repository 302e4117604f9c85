import Switchboard.Proofs.Client.Arguments
import Switchboard.Proofs.Handler.Gather
import Switchboard.Proofs.Schema.PlainText

/-!
# Defaults on both sides

A default is applied twice: the client sends it in the place of an omitted
argument, and the server puts it in where nothing was sent.  In the body the two
come to the same, as a default that its field leaves as it is arrives as it is.
In the query the client sends text, which the field converts again, so there the
two come to the same for the defaults that the field carries and for no others
(`defaults_agree`).

The body is a value on both sides, and its JSON text is left out: what is sent is
received where the text is read back (`Prepared.toRequest_toWire_iff`).  It is for
every value that loses nothing in its text (`Json.Faithful.read_text`), and is not for
a number such as `98765432.12345679`, which is read back as its neighbour
(`Json.read_drifting`).
-/

namespace Switchboard

/-- No parameter in the path and no header has the name. -/
structure Inputs.Unnamed (inputs : Inputs) (path : Entries Json) (headers : Headers)
    (name : String) : Prop where
  path : name ∉ Entries.keys path
  header : name ∉ Entries.keys (inputs.header.getD [])
  headers : ∀ entry ∈ headers.entries,
    Headers.parameterName (inputs.header.getD []) entry.1 ≠ name

theorem Inputs.Unnamed.leavesOut {inputs : Inputs} {path : Entries Json} {headers : Headers}
    {name : String} (h : inputs.Unnamed path headers name) :
    Schema.LeavesOut (inputs.header.getD []) (headers.toMembers (inputs.header.getD [])) name :=
  Headers.leavesOut_toMembers h.header h.headers

namespace Action

variable {a : Action} {registry : Registry} {given : List Json} {r : Prepared}
  {path : Entries Json} {headers : Headers} {name : String} {f : Field} {value : Json}

/-- The argument is omitted, and its field has a default that it leaves as it is. -/
structure Defaults (a : Action) (registry : Registry) (given : List Json) (name : String)
    (f : Field) (value : Json) : Prop where
  omitted : a.Omits given name
  fallback : f.fallback = some value
  fixed : shapeValue registry value f = value

/-- A default that was sent in the query arrives as its field converts its text. -/
theorem Defaults.get?_gather_query (hdefault : a.Defaults registry given name f value)
    (h : a.prepare given = .ok r) (hdeclared : Entries.Gives (a.inputs.query.getD []) name f)
    (hbody : name ∉ Entries.keys (a.inputs.body.getD []))
    (hunnamed : a.inputs.Unnamed path headers name) :
    Entries.get? (a.inputs.gather registry path r.url.queryValue (r.body.getD .null) headers) name =
      some (shapeValue registry value.asText f) := by
  have harrived := get?_queryValue_of_gives h
    (hdefault.omitted.gives_arguments hdeclared hdefault.fallback)
  have hdistinct : Entries.Distinct r.url.queryValue.members := Entries.distinct_ofPairs _
  exact Inputs.get?_gather_of_query hdeclared.get?_eq hunnamed.path hdistinct harrived
    ⟨hbody, notMem_keys_body h hbody⟩ hunnamed.leavesOut

/-- A default that was sent in the body arrives as it is. -/
theorem Defaults.get?_gather_body (hdefault : a.Defaults registry given name f value)
    (h : a.prepare given = .ok r) (hdeclared : Entries.Gives (a.inputs.body.getD []) name f)
    (hverb : a.verb.carriesBody = true) (hunnamed : a.inputs.Unnamed path headers name) :
    Entries.get? (a.inputs.gather registry path r.url.queryValue (r.body.getD .null) headers) name =
      some value := by
  have harrived := gives_body_of_gives h
    (hdefault.omitted.gives_arguments hdeclared hdefault.fallback) hverb
  rw [Inputs.get?_gather_of_body hdeclared.get?_eq harrived hunnamed.leavesOut, hdefault.fixed]

/--
**Agreement of defaults**: a server holds the same for a default that was sent in the body as for
one that was not sent at all.  For one that was sent in the query it does so exactly if the field
carries the default.
-/
theorem defaults_agree (h : a.prepare given = .ok r)
    (hdefault : a.Defaults registry given name f value)
    (hunnamed : a.inputs.Unnamed path headers name) :
    (Entries.Gives (a.inputs.query.getD []) name f →
      name ∉ Entries.keys (a.inputs.body.getD []) →
      (Entries.get? (a.inputs.gather registry path r.url.queryValue (r.body.getD .null) headers)
          name = some value ↔ f.Carries registry value) ∧
        ∀ query : Json, name ∉ Entries.keys query.members →
          Entries.get? (a.inputs.gather registry path query (r.body.getD .null) headers) name =
            some value) ∧
    (Entries.Gives (a.inputs.body.getD []) name f → a.verb.carriesBody = true →
      Entries.get? (a.inputs.gather registry path r.url.queryValue (r.body.getD .null) headers)
          name = some value ∧
        ∀ body : Json, name ∉ Entries.keys body.members →
          Entries.get? (a.inputs.gather registry path r.url.queryValue body headers) name =
            some value) := by
  constructor
  · intro hdeclared hbody
    constructor
    · rw [hdefault.get?_gather_query h hdeclared hbody hunnamed, Option.some_inj,
        shapeValue_asText_iff hdefault.fixed]
    · intro query hquery
      exact Inputs.get?_gather_of_query_absent hdeclared hdefault.fallback hunnamed.path hquery
        ⟨hbody, notMem_keys_body h hbody⟩ hunnamed.leavesOut
  · intro hdeclared hverb
    constructor
    · exact hdefault.get?_gather_body h hdeclared hverb hunnamed
    · intro body hbody
      exact Inputs.get?_gather_of_body_absent hdeclared hdefault.fallback hbody hunnamed.leavesOut

/-- `POST reports`, with a default in the query and another in the body. -/
def createReport : Action where
  base := .localhost
  path := "reports"
  verb := .post
  parameters := ["limit", "tags"]
  inputs :=
    { query := some [("limit", { typeName := some "int", fallback := some (.ofInt 20) })]
      body := some [("tags", { fallback := some (.array []) })] }

/-- Both defaults arrive as they are declared. -/
theorem createReport_defaults :
    ∃ r, createReport.prepare [] = .ok r ∧
      Entries.get? (createReport.inputs.gather {} [] r.url.queryValue (r.body.getD .null) {})
        "limit" = some (.ofInt 20) ∧
      Entries.get? (createReport.inputs.gather {} [] r.url.queryValue (r.body.getD .null) {})
        "tags" = some (.array []) := by
  have hlimit : createReport.Defaults {} [] "limit"
      { typeName := some "int", fallback := some (.ofInt 20) } (.ofInt 20) := by
    refine ⟨by simp [Omits], rfl, ?_⟩
    rw [shapeValue_of_truthy _ _ _ (by decide)]
    rfl
  have htags : createReport.Defaults {} [] "tags"
      { fallback := some (.array []) } (.array []) := by
    refine ⟨by simp [Omits], rfl, ?_⟩
    rw [shapeValue_of_truthy _ _ _ (by decide)]
    rfl
  have hunnamed : ∀ name, createReport.inputs.Unnamed [] {} name := fun name =>
    ⟨by simp [Entries.keys], by simp [Entries.keys, createReport], by simp⟩
  refine ⟨_, rfl, ?_, ?_⟩
  · obtain ⟨hquery, -⟩ := defaults_agree rfl hlimit (hunnamed "limit")
    exact (hquery ⟨by decide, by simp [createReport]⟩ (by decide)).1.2
      (.integer (.inr rfl) (by decide))
  · obtain ⟨-, hbody⟩ := defaults_agree rfl htags (hunnamed "tags")
    exact (hbody ⟨by decide, by simp [createReport]⟩ rfl).1

/-- `GET items`, with a default in the query for a field of no type. -/
def listItems : Action where
  base := .localhost
  path := "items"
  verb := .get
  parameters := ["limit"]
  inputs := { query := some [("limit", { fallback := some (.ofInt 20) })] }

/-- The number that is the default arrives as text when it was sent, and as the number when it was
not. -/
theorem listItems_default_differs :
    shapeValue {} (.ofInt 20) { fallback := some (.ofInt 20) } = .ofInt 20 ∧
    (∃ r, listItems.prepare [] = .ok r ∧
      Entries.get? (listItems.inputs.gather {} [] r.url.queryValue (r.body.getD .null) {})
        "limit" = some (.string "20")) ∧
    Entries.get? (listItems.inputs.gather {} [] (.object []) .null {}) "limit" =
      some (.ofInt 20) := by
  have hfixed : shapeValue {} (.ofInt 20) { fallback := some (.ofInt 20) } = .ofInt 20 := by
    rw [shapeValue_of_truthy _ _ _ (by decide)]
    rfl
  have hdefault : listItems.Defaults {} [] "limit" { fallback := some (.ofInt 20) } (.ofInt 20) :=
    ⟨by simp [Omits], rfl, hfixed⟩
  refine ⟨hfixed, ⟨_, rfl, ?_⟩, rfl⟩
  rw [hdefault.get?_gather_query rfl ⟨by decide, by simp [listItems]⟩ (by decide)
    ⟨by simp [Entries.keys], by simp [Entries.keys, listItems], by simp⟩,
    shapeValue_of_truthy _ _ _ (by decide)]
  rfl

end Action

end Switchboard
