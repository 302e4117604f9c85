import Switchboard.Handler.Parameters
import Switchboard.Handler.Run
import Switchboard.Route.Definition
import Switchboard.Route.Template
import Switchboard.Server.Mount
import Switchboard.Server.Router

/-!
# Serving a document

A `Service` answers the requests for one document. `Service.bind` finds the handler of every
operation when the service is made, so that no request can meet an operation without one.
`Service.route` is the router:

* `GET` of `api.json` under the base path shows the document as it was loaded;
* any other request goes to the first operation, in the order of the document, that has its method
  and whose path fits;
* `HEAD` is answered like `GET`, without the body, where no operation is declared for `HEAD` itself.

Every run of a handler gives exactly one response: what it returned, shaped as the document declares
for its status, or status 500 with a message where it failed or crashed.
-/

namespace Switchboard

/-- Why a service could not be made. -/
inductive BootError where
  /-- No handler is registered for the operation. -/
  | unresolvedHandler (verb : Verb) (path handler : String)
  /-- The operation declares a path parameter that its path does not have. -/
  | unknownPathParameter (verb : Verb) (path name : String)
  /-- The definition of the module could not be loaded. -/
  | definition (module : String) (cause : DefinitionError)

/-- The wording of the error; one that comes from the text of a definition has none of its own. -/
def BootError.message : BootError → Option String
  | unresolvedHandler verb path handler =>
    some ("No handler '" ++ handler ++ "' registered for " ++ verb.name ++ " " ++ path)
  | unknownPathParameter verb path name =>
    some (verb.name ++ " " ++ path ++ " declares url parameter '" ++ name ++
      "', which is not in the path")
  | definition module cause =>
    cause.message.map fun text =>
      "Failed to load the route definitions of '" ++ module ++ "': " ++ text

/-- An operation with its handler. -/
structure Endpoint (σ : Type) where
  placed : Placed
  template : Template
  handler : Handler σ

/-- A served document. -/
structure Service (σ : Type) where
  basePath : String
  definition : Definition
  registry : Registry
  endpoints : List (Endpoint σ)

namespace Endpoint

variable {σ : Type}

/-- The first declared path parameter that is not in the path. -/
def strayParameter? (inputs : Inputs) (template : Template) : Option String :=
  match inputs.url with
  | some (.schema schema) =>
    (Entries.keys schema).find? fun name => !template.parameterNames.contains name
  | _ => none

/-- Finds the handler of an operation. -/
def bind (handlers : Handlers σ) (placed : Placed) : Except BootError (Endpoint σ) :=
  let template := Template.ofPath placed.path
  match handlers.resolve? placed.operation.target with
  | none =>
    .error (.unresolvedHandler placed.verb placed.path placed.operation.target.display)
  | some handler =>
    match strayParameter? placed.operation.inputs template with
    | some name => .error (.unknownPathParameter placed.verb placed.path name)
    | none => .ok ⟨placed, template, handler⟩

/-- The HTTP method of the operation. -/
def method (e : Endpoint σ) : String := e.placed.verb.method

/-- The arguments of the handler for a request. -/
def arguments (e : Endpoint σ) (registry : Registry) (context : Context) : Arguments :=
  let operation := e.placed.operation
  let parameters := operation.inputs.gather registry context.pathParameters context.query
    context.body context.headers
  Arguments.bind operation.target.serverMapping parameters context

/-- The body that a response will have: the value returned, or else the body set. -/
def pendingBody (value : Json) (draft : Draft) : Option Json :=
  if value.isNull then draft.body else some value

/-- The body as it is declared for the status. -/
def shapeBody (e : Endpoint σ) (registry : Registry) (status : Nat) (body : Option Json) :
    Option Json :=
  match e.placed.operation.replySchema status with
  | some schema => body.map fun value => shapeValue registry value schema
  | none => body

/-- The response to a run that ended with an outcome. -/
def respond (e : Endpoint σ) (registry : Registry) (outcome : Outcome) (draft : Draft) : Response :=
  match outcome with
  | .returned value =>
    .ofBody draft.status (e.shapeBody registry draft.status (pendingBody value draft)) draft.headers
  | .failed error => .json 500 (.object [("message", .string error.text)]) draft.headers
  | .crashed message =>
    .json 500 (.object [("message", .string (message.getD "Handler panicked"))]) draft.headers

/-- Serves a request with the given path parameters. The body is taken out of the request. -/
def dispatch (e : Endpoint σ) (registry : Registry) (pathParameters : Entries Json)
    (exchange : Exchange σ) : Response × Exchange σ :=
  let (body, request) := exchange.request.takeBody
  let context : Context :=
    { method := request.method, path := request.path, pathParameters, query := request.query,
      body, headers := request.headers }
  let run := e.handler (e.arguments registry context)
  let (outcome, store, draft) := run.exec exchange.store {}
  (e.respond registry outcome draft, { request, store })

end Endpoint

namespace Service

variable {σ : Type}

/-- The name of the document under the base path. -/
def documentName : String := "api.json"

/-- Serves a definition. -/
def bind (definition : Definition) (handlers : Handlers σ) (registry : Registry) (mount : Mount) :
    Except BootError (Service σ) := do
  let endpoints ← definition.document.operations.mapM (Endpoint.bind handlers)
  return { basePath := mount.basePath definition.version, definition, registry, endpoints }

/-- The path under which the document is shown. -/
def documentPath (s : Service σ) : String := s.basePath ++ "/" ++ documentName

/-- The path below the base path is that of the document. -/
def isDocumentPath (relative : String) : Bool :=
  let trimmed := relative.toList.dropWhile (· == '/')
  (trimmed.reverse.dropWhile (· == '/')).reverse == documentName.toList

/-- The first operation of the method whose path fits, and the parameters in the path. -/
def find? (s : Service σ) (method relative : String) : Option (Endpoint σ × Entries Json) :=
  s.endpoints.findSome? fun e =>
    if e.method = method then (e.template.capture? relative).map fun captured => (e, captured)
    else none

/-- The operation that answers a method: for `HEAD` one of `GET` where there is none of its own. -/
def select? (s : Service σ) (method relative : String) : Option (Endpoint σ × Entries Json) :=
  match s.find? method relative with
  | some found => some found
  | none => if method = "HEAD" then s.find? "GET" relative else none

/-- Drops the body where the request asks for none. -/
def finish (method : String) (response : Response) : Response :=
  if method = "HEAD" then response.withoutBody else response

/-- Answers the requests for the document, and leaves all others alone. -/
def route (s : Service σ) : Router σ := fun exchange =>
  let method := exchange.request.method
  match Mount.relative? s.basePath exchange.request.path with
  | none => (none, exchange)
  | some relative =>
    if (method = "GET" ∨ method = "HEAD") ∧ isDocumentPath relative then
      (some (finish method (.json 200 s.definition.raw {})), exchange)
    else
      match s.select? method relative with
      | none => (none, exchange)
      | some (endpoint, captured) =>
        let (response, after) := endpoint.dispatch s.registry captured exchange
        (some (finish method response), after)

end Service

end Switchboard
