import Switchboard.Proofs.Server.Outcome
import Switchboard.Proofs.Server.Selection

/-!
# The headers that are sent

Whatever a run does to the headers, the response has each name once, in lower case, with the value
that it was set to last, in the order in which the names were last set.  A body is JSON, and its
form is set after everything else, so it is the last header and the only one of its name; where a run
leaves no body, nothing is added (`Response.Shows`).

The response to `HEAD` is made like every other one, and its body is taken out afterwards.  It may
therefore name the form of a body that it does not have (`Endpoint.sent_headers`).
-/

namespace Switchboard

namespace Response

/-- The headers of the response are those that the steps have set, and with a body its form. -/
def Shows (r : Response) (steps : Steps) : Prop :=
  match r.body with
  | none => r.headers.Mirrors steps.headerSets
  | some _ => r.headers.Mirrors (steps.headerSets ++ [(contentType, jsonType)]) ∧
      r.headers.entries.getLast? = some (contentType, jsonType) ∧
      r.headers.getAll contentType = [jsonType]

theorem mirrors_steps (steps : Steps) :
    (steps.foldl Step.apply {}).headers.Mirrors steps.headerSets :=
  @Steps.mirrors_foldl steps {} [] Headers.mirrors_empty

theorem shows_json (status : Nat) (body : Json) (steps : Steps) :
    (json status body (steps.foldl Step.apply {}).headers).Shows steps := by
  refine ⟨(mirrors_steps steps).replace contentType jsonType, ?_, ?_⟩
  · rw [json, Headers.replace, Headers.insert]
    exact List.getLast?_concat
  · rw [getAll_headers_json, if_pos (by decide)]

theorem shows_ofBody (status : Nat) (body : Option Json) (steps : Steps) :
    (ofBody status body (steps.foldl Step.apply {}).headers).Shows steps := by
  cases body with
  | none => exact mirrors_steps steps
  | some value => exact shows_json status value steps

end Response

namespace Endpoint

variable {σ : Type}

theorem shows_respond (e : Endpoint σ) (registry : Registry) (outcome : Outcome) (steps : Steps) :
    (e.respond registry outcome (steps.foldl Step.apply {})).Shows steps := by
  cases outcome with
  | returned value => exact Response.shows_ofBody _ _ steps
  | failed error => exact Response.shows_json 500 _ steps
  | crashed message => exact Response.shows_json 500 _ steps

/--
**The headers that are sent**: the response that a run leads to has the headers that the run has
set, each name once and in lower case, with its last value and in the order of the last settings;
with a body, successful or not, its form is the last header and the only one of its name.  It is
sent like this, for `HEAD` too, where only the body is left out.
-/
theorem sent_headers (e : Endpoint σ) (registry : Registry) (pathParameters : Entries Json)
    (exchange : Exchange σ) :
    let answer := (e.dispatch registry pathParameters exchange).1
    let sent := Service.finish exchange.request.method answer
    answer.Shows (e.follow registry pathParameters exchange).steps ∧
      sent.headers = answer.headers ∧
      sent.body = if exchange.request.method = "HEAD" then none else answer.body := by
  intro answer sent
  refine ⟨?_, ?_, ?_⟩
  · have hanswer : answer = _ := congrArg Prod.fst (e.dispatch_eq registry pathParameters exchange)
    rw [hanswer]
    exact e.shows_respond registry _ _
  · show (Service.finish exchange.request.method answer).headers = answer.headers
    rw [Service.finish]
    split
    · rfl
    · rfl
  · show (Service.finish exchange.request.method answer).body = _
    rw [Service.finish]
    split
    · rfl
    · rfl

/-- An operation that sets no header and returns a value. -/
def listNotes : Endpoint Unit where
  placed := { path := "notes", verb := .get, operation := { target := { action := "list" } } }
  template := .ofPath "notes"
  handler := fun _ => .done (.returned (.array []))

/-- A service with this operation alone. -/
def notes : Service Unit where
  basePath := "/api/m/v1"
  definition := { raw := .null, document := { version := 1, routes := [] } }
  registry := {}
  endpoints := [listNotes]

/-- `HEAD` of the path at which the handler answers. -/
def headNotes : Exchange Unit where
  request :=
    { method := "HEAD", path := "/api/m/v1/notes", query := .object [], headers := {},
      body := .null }
  store := ()

/-- A response to `HEAD` has no body, and yet a form is added to what the run has set. -/
theorem headNotes_form_added :
    (notes.route headNotes).1 = some ⟨200, ⟨[("content-type", "application/json")]⟩, none⟩ ∧
      (listNotes.follow {} [] headNotes).steps.headerSets = [] ∧
      ∀ sent, (notes.route headNotes).1 = some sent →
        ¬ sent.headers.Mirrors (listNotes.follow {} [] headNotes).steps.headerSets := by
  have hsent : (notes.route headNotes).1 =
      some ⟨200, ⟨[("content-type", "application/json")]⟩, none⟩ := by decide
  refine ⟨hsent, rfl, fun sent hroute hmirrors => ?_⟩
  obtain rfl := Option.some.inj (hsent.symm.trans hroute)
  obtain ⟨before, after, hsets, -⟩ := (hmirrors.last _ _).1 List.mem_cons_self
  exact absurd hsets (by simp [follow, run, listNotes, Run.trace, Steps.headerSets])

end Endpoint

end Switchboard
