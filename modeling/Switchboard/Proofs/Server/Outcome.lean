import Switchboard.Proofs.Handler.Steps
import Switchboard.Server.Service

/-!
# The response to a run

A dispatch starts one run and answers with one response.  What the response says is
decided by the steps of the run and by how the run ends (`dispatch_answers`).  A value
returned is delivered as the last steps have left the status and the body, shaped as is
declared for that status.  A failure is reported with status 500 and a message, whatever
the steps have done to the status and the body.

The headers are sent as they were last set in either case.  Only the form of a body is
not for the run to name: a body that is sent is JSON and says so.
-/

namespace Switchboard

namespace Response

theorem getAll_headers_json (status : Nat) (body : Json) (headers : Headers) (name : String) :
    (json status body headers).headers.getAll name =
      if Text.lowerCase name = contentType then [jsonType] else headers.getAll name := by
  have hkey : Text.lowerCase contentType = contentType := by decide
  rw [json, Headers.getAll_replace, hkey]
  by_cases hname : Text.lowerCase name = contentType
  · rw [if_pos hname, if_pos hname.symm]
  · rw [if_neg hname, if_neg (Ne.symm hname)]

/-- The response carries every header as the steps have last set it, the form of the body apart. -/
def Carries (r : Response) (steps : Steps) : Prop :=
  ∀ name, Text.lowerCase name ≠ contentType →
    r.headers.getAll name = (steps.lastHeader? name).toList

/-- The response delivers a body, or none, after the given steps. -/
structure Delivers (r : Response) (steps : Steps) (body : Option Json) : Prop where
  status : r.status = steps.lastStatus
  body : r.body = body.map Json.text
  headers : r.Carries steps

/-- The response reports a failure after the given steps. -/
structure Reports (r : Response) (steps : Steps) (message : String) : Prop where
  status : r.status = 500
  body : r.body = some (Json.object [("message", .string message)]).text
  form : r.headers.getAll contentType = [jsonType]
  headers : r.Carries steps

theorem carries_json (status : Nat) (body : Json) (steps : Steps) :
    (json status body (steps.foldl Step.apply {}).headers).Carries steps := by
  intro name hname
  rw [getAll_headers_json, if_neg hname, Steps.getAll_headers_foldl]

theorem delivers_ofBody (steps : Steps) (body : Option Json) :
    (ofBody steps.lastStatus body (steps.foldl Step.apply {}).headers).Delivers steps body := by
  cases body with
  | none => exact ⟨rfl, rfl, fun name _ => steps.getAll_headers_foldl name⟩
  | some value => exact ⟨rfl, rfl, carries_json _ value steps⟩

theorem reports_json (steps : Steps) (message : String) :
    (json 500 (.object [("message", .string message)])
      (steps.foldl Step.apply {}).headers).Reports steps message where
  status := rfl
  body := rfl
  form := by
    rw [getAll_headers_json, if_pos (by decide)]
  headers := carries_json 500 _ steps

end Response

namespace Endpoint

variable {σ : Type}

/-- The run that a request starts. -/
def run (e : Endpoint σ) (registry : Registry) (pathParameters : Entries Json)
    (request : Request) : Run σ :=
  e.handler (e.arguments registry
    { method := request.method, path := request.path, pathParameters, query := request.query,
      body := request.body, headers := request.headers })

/-- The run of a dispatch, followed from the store that it finds and without a body. -/
def follow (e : Endpoint σ) (registry : Registry) (pathParameters : Entries Json)
    (exchange : Exchange σ) : Trace σ :=
  (e.run registry pathParameters exchange.request).trace exchange.store none

/-- A body in the form that is declared for the responses of a status. -/
def shapeFor (e : Endpoint σ) (registry : Registry) (status : Nat) (body : Json) : Json :=
  match e.placed.operation.replySchema status with
  | some schema => shapeValue registry body schema
  | none => body

theorem shapeBody_eq (e : Endpoint σ) (registry : Registry) (status : Nat) (body : Option Json) :
    e.shapeBody registry status body = body.map (e.shapeFor registry status) := by
  unfold shapeBody shapeFor
  cases e.placed.operation.replySchema status with
  | some schema => rfl
  | none => exact Option.map_id_apply.symm

/-- The body that is pending when a value is returned after the given steps. -/
def pendingAfter (steps : Steps) (value : Json) : Option Json :=
  if value.isNull then steps.pendingBody else some value

/-- A dispatch takes its run step by step and then answers for the outcome. -/
theorem dispatch_eq (e : Endpoint σ) (registry : Registry) (pathParameters : Entries Json)
    (exchange : Exchange σ) :
    e.dispatch registry pathParameters exchange =
      let t := e.follow registry pathParameters exchange
      (e.respond registry t.outcome (t.steps.foldl Step.apply {}),
        { request := { exchange.request with body := .null }, store := t.store }) := by
  have hexec := Run.exec_eq (e.run registry pathParameters exchange.request) exchange.store {}
  calc e.dispatch registry pathParameters exchange
    _ = let out := (e.run registry pathParameters exchange.request).exec exchange.store {}
        (e.respond registry out.1 out.2.2,
          { request := { exchange.request with body := .null }, store := out.2.1 }) := rfl
    _ = _ := by rw [hexec]; rfl

theorem delivers_respond (e : Endpoint σ) (registry : Registry) (steps : Steps) (value : Json) :
    (e.respond registry (.returned value) (steps.foldl Step.apply {})).Delivers steps
      ((pendingAfter steps value).map (e.shapeFor registry steps.lastStatus)) := by
  rw [respond, shapeBody_eq, pendingBody, Steps.status_foldl, Steps.body_foldl]
  exact Response.delivers_ofBody steps _

/--
**The outcome of a dispatch**: the request is left without its body, and the response is told by the
steps of the run and its end alone.
-/
theorem dispatch_answers (e : Endpoint σ) (registry : Registry) (pathParameters : Entries Json)
    (exchange : Exchange σ) :
    let t := e.follow registry pathParameters exchange
    let answer := e.dispatch registry pathParameters exchange
    answer.2 = { request := { exchange.request with body := .null }, store := t.store } ∧
      match t.outcome with
      | .returned value =>
          answer.1.Delivers t.steps
            ((pendingAfter t.steps value).map (e.shapeFor registry t.steps.lastStatus))
      | .failed error => answer.1.Reports t.steps error.text
      | .crashed message => answer.1.Reports t.steps (message.getD "Handler panicked") := by
  intro t answer
  have hanswer : answer = _ := e.dispatch_eq registry pathParameters exchange
  refine ⟨by rw [hanswer], ?_⟩
  rw [hanswer]
  dsimp only
  cases t.outcome with
  | returned value => exact e.delivers_respond registry t.steps value
  | failed error => exact Response.reports_json t.steps error.text
  | crashed message => exact Response.reports_json t.steps _

/-- A handler that names the form of its response and then fails. -/
def plainFailure : Endpoint Unit where
  placed := { path := "notes", verb := .get, operation := { target := { action := "fail" } } }
  template := .ofPath "notes"
  handler := fun _ => .setHeader "content-type" "text/plain" (.done (.failed (.message "boom")))

/-- `GET` of the path at which the handler answers. -/
def askNotes : Exchange Unit where
  request :=
    { method := "GET", path := "/api/m/v1/notes", query := .object [], headers := {},
      body := .null }
  store := ()

/-- Not every header that is set before a failure is sent: the form of the body is lost. -/
theorem plainFailure_form_lost :
    (plainFailure.follow {} [] askNotes).outcome = .failed (.message "boom") ∧
      ¬ ∀ name value, (plainFailure.follow {} [] askNotes).steps.lastHeader? name = some value →
        value ∈ (plainFailure.dispatch {} [] askNotes).1.headers.getAll name := by
  refine ⟨rfl, fun hsent => ?_⟩
  have hform := hsent "content-type" "text/plain" (by decide)
  exact absurd hform (by decide)

end Endpoint

end Switchboard
