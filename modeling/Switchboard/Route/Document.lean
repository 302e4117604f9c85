import Switchboard.Route.Verb
import Switchboard.Schema.Field

/-!
# Route documents

A document declares the operations of an API: at which path and with which verb each one answers,
which handler serves it, which parameters it takes from which part of a request, and what its
responses look like. The same document drives the server and the clients made for it.

* `Document.decode` reads a document from a JSON value and `Document.toJson` writes it in one form:
  every route with its verbs spelled out, every part that is absent left out.
* `Document.operations` lists the operations in the order of their declaration.

A route may leave out the verb: an object in which no key names a verb is the operation of `get`.
-/

namespace Switchboard

/-- The handler of an operation and the names of the arguments that it takes, in their order. -/
structure Target where
  group : Option String := none
  action : String
  mapping : Option (List String) := none
  deriving DecidableEq, Repr

/-- The declaration of the parameters in the path: only that there are some, or a schema of them. -/
inductive UrlInputs where
  | flag (declared : Bool)
  | schema (schema : Schema)

/-- The parameters of an operation, by the part of the request that holds them. -/
structure Inputs where
  query : Option Schema := none
  body : Option Schema := none
  header : Option Schema := none
  url : Option UrlInputs := none

/-- The declaration of a response. -/
structure Reply where
  schema : Option Field := none

/-- What is declared for one verb at one path. -/
structure Operation where
  target : Target
  inputs : Inputs := {}
  /-- The responses by status code. -/
  replies : Entries Reply := []

/-- The operations at one path. -/
structure Route where
  operations : List (Verb × Operation)

/-- A route document. -/
structure Document where
  version : Nat
  routes : Entries Route

/-- The name that stands for the request itself among the arguments of a handler. -/
def contextName : String := "ctx"

namespace Target

/-- The names of the arguments that the handler takes. -/
def serverMapping (t : Target) : List String := t.mapping.getD []

/-- The names of the arguments that a client passes: all but the request. -/
def clientMapping (t : Target) : List String := t.serverMapping.filter (· != contextName)

/-- The handler as it is called in messages and by clients. -/
def display (t : Target) : String :=
  match t.group with
  | some group => group ++ "." ++ t.action
  | none => t.action

end Target

namespace UrlInputs

/-- Path parameters are declared. -/
def isDeclared : UrlInputs → Bool
  | flag declared => declared
  | schema _ => true

end UrlInputs

namespace Operation

/-- The declared form of the responses of a status. -/
def replySchema (o : Operation) (status : Nat) : Option Field :=
  (Entries.get? o.replies (String.ofList (natText status))).bind (·.schema)

end Operation

/-- An operation with its place in a document. -/
structure Placed where
  path : String
  verb : Verb
  operation : Operation

namespace Document

/-- The operations in the order of their declaration. -/
def operations (d : Document) : List Placed :=
  d.routes.flatMap fun (path, route) =>
    route.operations.map fun (verb, operation) => ⟨path, verb, operation⟩

end Document

/-! ## Reading -/

namespace Target

/-- The handler that a value names. -/
def decode (value : Json) : Decoded Target := do
  let members ← Json.recordMembers .target value
  let read (t : Target × Bool) : String × Json → Decoded (Target × Bool)
    | ("group", v) => do
      let group ← Json.decodeOptional Json.decodeString v
      return ({ t.1 with group }, t.2)
    | ("action", v) => do
      let action ← Json.decodeString v
      return ({ t.1 with action }, true)
    | ("mapping", v) => do
      let mapping ← Json.decodeOptional (Json.decodeList Json.decodeString) v
      return ({ t.1 with mapping }, t.2)
    | _ => return t
  let (target, hasAction) ← members.foldlM read ({ action := "" }, false)
  if !hasAction then .error (Json.absent .target "action" value)
  Json.checkLength .target value
  return target

end Target

namespace UrlInputs

/-- The declaration of path parameters that a value is. -/
def decode : Json → Decoded UrlInputs
  | .bool b => .ok (.flag b)
  | value =>
    match Schema.decode value with
    | .ok declared => .ok (.schema declared)
    | .error _ => .error .noUrlForm

end UrlInputs

namespace Inputs

/-- Reads one part of the parameters; other keys are passed over. -/
def put (inputs : Inputs) : String × Json → Decoded Inputs
  | ("query", v) => do
    let query ← Json.decodeOptional Schema.decode v
    return { inputs with query }
  | ("body", v) => do
    let body ← Json.decodeOptional Schema.decode v
    return { inputs with body }
  | ("header", v) => do
    let header ← Json.decodeOptional Schema.decode v
    return { inputs with header }
  | ("url", v) => do
    let url ← Json.decodeOptional UrlInputs.decode v
    return { inputs with url }
  | _ => return inputs

/-- The parameters that a value declares. -/
def decode (value : Json) : Decoded Inputs := do
  let members ← Json.recordMembers .inputs value
  let inputs ← members.foldlM put {}
  Json.checkLength .inputs value
  return inputs

end Inputs

namespace Reply

/-- The response that a value declares. -/
def decode (value : Json) : Decoded Reply := do
  let members ← Json.recordMembers .reply value
  let put (reply : Reply) : String × Json → Decoded Reply
    | ("schema", v) => do
      let schema ← Json.decodeOptional Field.decode v
      return { reply with schema }
    | _ => return reply
  let reply ← members.foldlM put {}
  Json.checkLength .reply value
  return reply

end Reply

namespace Operation

/-- The parts of an operation read so far. -/
structure Draft where
  target : Option Target := none
  inputs : Inputs := {}
  replies : Entries Reply := []

/-- Reads one part of an operation; other keys are passed over. -/
def Draft.put (draft : Draft) : String × Json → Decoded Draft
  | ("handler", v) => do
    let target ← Target.decode v
    return { draft with target := some target }
  | ("params", v) => do
    let inputs ← Inputs.decode v
    return { draft with inputs }
  | ("response", v) => do
    let replies ← Json.decodeMap Reply.decode v
    return { draft with replies }
  | _ => return draft

/-- The operation that a value declares. -/
def decode (value : Json) : Decoded Operation := do
  let members ← Json.recordMembers .operation value
  let draft ← members.foldlM Draft.put {}
  match draft.target with
  | none => .error (Json.absent .operation "handler" value)
  | some target =>
    Json.checkLength .operation value
    return { target, inputs := draft.inputs, replies := draft.replies }

end Operation

namespace Route

/-- Gives a verb its operation: in the place of an earlier one, or at the end. -/
def set : List (Verb × Operation) → Verb → Operation → List (Verb × Operation)
  | [], verb, operation => [(verb, operation)]
  | (v, o) :: rest, verb, operation =>
    if v = verb then (verb, operation) :: rest else (v, o) :: set rest verb operation

/-- Reads the operations of a route in which the keys name verbs, after those already read. -/
def decodeVerbs (done : List (Verb × Operation)) :
    List (String × Json) → Decoded (List (Verb × Operation))
  | [] => .ok done
  | (key, value) :: rest =>
    match Verb.ofKey? key with
    | none => .error (.foreignKey key)
    | some verb =>
      match Operation.decode value with
      | .error cause => .error (.inMethod key cause)
      | .ok operation => decodeVerbs (set done verb operation) rest

/-- The route that a value declares. -/
def decode : Json → Decoded Route
  | .object members =>
    if members.any fun (key, _) => (Verb.ofKey? key).isSome then
      (decodeVerbs [] members).map Route.mk
    else (Operation.decode (.object members)).map fun operation => ⟨[(.get, operation)]⟩
  | value => .error (.wrongKind value .map)

end Route

namespace Document

/-- The parts of a document read so far. -/
structure Draft where
  version : Option Nat := none
  routes : Entries Route := []

/-- Reads one part of a document; other keys are passed over. -/
def Draft.put (draft : Draft) : String × Json → Decoded Draft
  | ("version", v) => do
    let version ← Json.decodeUnsigned 32 v
    return { draft with version := some version }
  | ("routes", v) => do
    let routes ← Json.decodeMap Route.decode v
    return { draft with routes }
  | _ => return draft

/-- The document that a value is. -/
def decode (value : Json) : Decoded Document := do
  let members ← Json.recordMembers .document value
  let draft ← members.foldlM Draft.put {}
  match draft.version with
  | none => .error (Json.absent .document "version" value)
  | some version =>
    Json.checkLength .document value
    return { version, routes := draft.routes }

end Document

/-! ## Writing -/

namespace Target

/-- The handler as an object. -/
def toJson (t : Target) : Json :=
  Json.ofOptional
    [("group", t.group.map Json.string), ("action", some (.string t.action)),
      ("mapping", t.mapping.map fun names => .array (names.map Json.string))]

end Target

namespace UrlInputs

/-- The declaration of path parameters as a value. -/
def toJson : UrlInputs → Json
  | flag declared => .bool declared
  | schema s => s.toJson

end UrlInputs

namespace Inputs

/-- The parameters as an object. -/
def toJson (i : Inputs) : Json :=
  Json.ofOptional
    [("query", i.query.map Schema.toJson), ("body", i.body.map Schema.toJson),
      ("header", i.header.map Schema.toJson), ("url", i.url.map UrlInputs.toJson)]

end Inputs

namespace Reply

/-- The response as an object. -/
def toJson (r : Reply) : Json := Json.ofOptional [("schema", r.schema.map Field.toJson)]

end Reply

namespace Operation

/-- The operation as an object. -/
def toJson (o : Operation) : Json :=
  .object
    [("handler", o.target.toJson), ("params", o.inputs.toJson),
      ("response", .object (o.replies.map fun (status, reply) => (status, reply.toJson)))]

end Operation

namespace Document

/-- The document as an object. -/
def toJson (d : Document) : Json :=
  .object
    [("version", .ofInt d.version),
      ("routes", .object (d.routes.map fun (path, route) =>
        (path, .object (route.operations.map fun (verb, operation) =>
          (verb.name, operation.toJson)))))]

end Document

end Switchboard
