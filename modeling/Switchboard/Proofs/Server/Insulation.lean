import Switchboard.Proofs.Schema.Strip
import Switchboard.Server.Service

/-!
# Insulation from undeclared data

What a document does not declare must not be felt on the other side: not by a
handler in the parameters of a request, nor by a client in the body of a
response.  Both are shaped, and shaping gives the same without what is not
declared; so two requests or two results that differ in nothing else cannot be
told apart (`undeclared_without_effect`).

The parts of a request are compared as they are shaped, which for the query is
together with the parameters in the path (`Inputs.Alike`).  Where the path is the
same, comparing the queries alone is enough (`Inputs.AlikeBehindPath`), since a
parameter that counts as given cannot bring back what its schema does not
declare.
-/

namespace Switchboard

namespace Inputs

variable {inputs : Inputs} {c₁ c₂ : Context}

/-- The parameters in the path without what is not declared, if they have a schema. -/
def stripPath (inputs : Inputs) (path : Entries Json) : Entries Json :=
  match inputs.url with
  | some (.schema schema) => schema.strip path
  | _ => path

/-- The parts of two requests come to the same without what is not declared. -/
structure Alike (inputs : Inputs) (c₁ c₂ : Context) : Prop where
  path : inputs.stripPath c₁.pathParameters = inputs.stripPath c₂.pathParameters
  query : Schema.strip (inputs.query.getD []) (Entries.merge c₁.query.members c₁.pathParameters) =
    Schema.strip (inputs.query.getD []) (Entries.merge c₂.query.members c₂.pathParameters)
  body : Schema.strip (inputs.body.getD []) c₁.body.members =
    Schema.strip (inputs.body.getD []) c₂.body.members
  headers : Schema.strip (inputs.header.getD []) (c₁.headers.toMembers (inputs.header.getD [])) =
    Schema.strip (inputs.header.getD []) (c₂.headers.toMembers (inputs.header.getD []))

/-- The parameters of a request. -/
def parameters (inputs : Inputs) (registry : Registry) (c : Context) : Entries Json :=
  inputs.gather registry c.pathParameters c.query c.body c.headers

theorem shapePath_stripPath (registry : Registry) (path : Entries Json) :
    inputs.shapePath registry (inputs.stripPath path) = inputs.shapePath registry path := by
  unfold shapePath stripPath
  match inputs.url with
  | some (.schema schema) => exact Schema.shape_strip registry schema path
  | some (.flag _) | none => rfl

theorem Alike.parameters_eq (h : inputs.Alike c₁ c₂) (registry : Registry) :
    inputs.parameters registry c₁ = inputs.parameters registry c₂ := by
  unfold parameters gather
  dsimp only
  rw [← shapePath_stripPath registry c₁.pathParameters, h.path, shapePath_stripPath,
    ← Schema.shape_strip registry _ (Entries.merge c₁.query.members c₁.pathParameters), h.query,
    Schema.shape_strip, ← Schema.shape_strip registry _ c₁.body.members, h.body,
    Schema.shape_strip, ← Schema.shape_strip registry _ (c₁.headers.toMembers _), h.headers,
    Schema.shape_strip]

/-- The path of two requests is the same, and their other parts, the query on its own, come to the
same without what is not declared. -/
structure AlikeBehindPath (inputs : Inputs) (c₁ c₂ : Context) : Prop where
  path : c₁.pathParameters = c₂.pathParameters
  given : ∀ entry ∈ c₁.pathParameters, entry.2.isTruthy = true
  distinct₁ : Entries.Distinct c₁.query.members
  distinct₂ : Entries.Distinct c₂.query.members
  query : Schema.strip (inputs.query.getD []) c₁.query.members =
    Schema.strip (inputs.query.getD []) c₂.query.members
  body : Schema.strip (inputs.body.getD []) c₁.body.members =
    Schema.strip (inputs.body.getD []) c₂.body.members
  headers : Schema.strip (inputs.header.getD []) (c₁.headers.toMembers (inputs.header.getD [])) =
    Schema.strip (inputs.header.getD []) (c₂.headers.toMembers (inputs.header.getD []))

theorem AlikeBehindPath.alike (h : inputs.AlikeBehindPath c₁ c₂) : inputs.Alike c₁ c₂ := by
  refine ⟨by rw [h.path], ?_, h.body, h.headers⟩
  rw [← h.path]
  exact Schema.strip_merge_congr h.distinct₁ h.distinct₂ h.query h.given

end Inputs

namespace Endpoint

variable {σ : Type}

/-- The body without what is not declared for the status. -/
def stripBody (e : Endpoint σ) (status : Nat) (body : Option Json) : Option Json :=
  match e.placed.operation.replySchema status with
  | some schema => body.map fun value => stripValue value schema
  | none => body

theorem shapeBody_stripBody (e : Endpoint σ) (registry : Registry) (status : Nat)
    (body : Option Json) :
    e.shapeBody registry status (e.stripBody status body) = e.shapeBody registry status body := by
  unfold shapeBody stripBody
  cases e.placed.operation.replySchema status with
  | none => rfl
  | some schema =>
      cases body with
      | none => rfl
      | some value => exact congrArg some (shapeValue_stripValue registry value schema)

/-- Two runs that leave the same status, the same headers and bodies that come to the same without
what is not declared for the status give the same response. -/
theorem respond_returned_congr (e : Endpoint σ) (registry : Registry) {v₁ v₂ : Json}
    {d₁ d₂ : Draft} (hstatus : d₁.status = d₂.status) (hheaders : d₁.headers = d₂.headers)
    (hbody : e.stripBody d₁.status (pendingBody v₁ d₁) =
      e.stripBody d₂.status (pendingBody v₂ d₂)) :
    e.respond registry (.returned v₁) d₁ = e.respond registry (.returned v₂) d₂ := by
  unfold respond
  dsimp only
  rw [← shapeBody_stripBody e registry d₁.status, hbody, hstatus, shapeBody_stripBody, hheaders]

end Endpoint

/--
**Insulation**: what is not declared has no effect.  An object is shaped the same without it, in the
same order; requests that are alike without it have the same parameters; and runs that leave bodies
behind that are the same without it lead to the same response, octet for octet.
-/
theorem undeclared_without_effect (registry : Registry) :
    (∀ (schema : Schema) (data : Entries Json),
      schema.shape registry (schema.strip data) = schema.shape registry data) ∧
    (∀ (inputs : Inputs) (c₁ c₂ : Context),
      inputs.Alike c₁ c₂ ∨ inputs.AlikeBehindPath c₁ c₂ →
        inputs.parameters registry c₁ = inputs.parameters registry c₂) ∧
    ∀ (σ : Type) (e : Endpoint σ) (v₁ v₂ : Json) (d₁ d₂ : Draft),
      d₁.status = d₂.status → d₁.headers = d₂.headers →
      e.stripBody d₁.status (Endpoint.pendingBody v₁ d₁) =
        e.stripBody d₂.status (Endpoint.pendingBody v₂ d₂) →
      e.respond registry (.returned v₁) d₁ = e.respond registry (.returned v₂) d₂ := by
  refine ⟨Schema.shape_strip registry, ?_, ?_⟩
  · rintro inputs c₁ c₂ (halike | hbehind)
    · exact halike.parameters_eq registry
    · exact hbehind.alike.parameters_eq registry
  · intro σ e v₁ v₂ d₁ d₂ hstatus hheaders hbody
    exact e.respond_returned_congr registry hstatus hheaders hbody

/-- `GET users`, with a limit in the query and an age in the answer. -/
def listUsers : Endpoint Unit where
  placed :=
    { path := "users"
      verb := .get
      operation :=
        { target := { action := "list", mapping := some ["limit"] }
          inputs := { query := some [("limit", { typeName := some "int" })] }
          replies := [("200", { schema := some { fields := some [("age", {})] } })] } }
  template := .ofPath "users"
  handler := fun _ => .done (.returned .null)

/-- A request for users with some query. -/
def usersQuery (members : Entries Json) : Context where
  method := "GET"
  path := "/api/users"
  pathParameters := []
  query := .object members
  body := .null
  headers := {}

theorem listUsers_insulated :
    listUsers.placed.operation.inputs.parameters {}
        (usersQuery [("limit", .string "5"), ("debug", .string "1")]) =
      listUsers.placed.operation.inputs.parameters {} (usersQuery [("limit", .string "5")]) ∧
    listUsers.respond {} (.returned (.object [("role", .string "admin"), ("age", .ofInt 7)])) {} =
      listUsers.respond {} (.returned (.object [("age", .ofInt 7)])) {} := by
  have hdistinct : Entries.Distinct [("limit", Json.string "5"), ("debug", .string "1")] ∧
      Entries.Distinct [("limit", Json.string "5")] := by
    unfold Entries.Distinct
    decide
  have hstripped :
      listUsers.stripBody 200 (some (.object [("role", .string "admin"), ("age", .ofInt 7)])) =
        listUsers.stripBody 200 (some (.object [("age", .ofInt 7)])) := by
    refine congrArg some ?_
    dsimp only
    rw [stripValue_eq, stripValue_eq (.object [("age", .ofInt 7)])]
    rfl
  obtain ⟨-, hparameters, hresponses⟩ := undeclared_without_effect {}
  constructor
  · exact hparameters _ _ _
      (.inr ⟨rfl, by simp [usersQuery], hdistinct.1, hdistinct.2, rfl, rfl, rfl⟩)
  · exact hresponses _ listUsers _ _ _ _ rfl rfl hstripped

end Switchboard
