import Switchboard.Http.Headers
import Switchboard.Route.Document
import Switchboard.Schema.Shape

/-!
# The parameters of a request

A request brings parameters in its path, its query, its body and its headers. `Inputs.gather` shapes
each part by its schema and puts them into one object: the path first, then the query, the body and
the headers over it, a later part replacing the values of an earlier one. A part without a schema
is shaped by the empty one, so that only its values that are not truthy remain.

The query is shaped together with the parameters in the path, so that its schema may declare those
too.
-/

namespace Switchboard

namespace Headers

/-- The name under which a header counts as a parameter: the first declared name that differs from
it at most in the case of the letters `A` to `Z`, or else its own. -/
def parameterName (schema : Schema) (name : String) : String :=
  ((Entries.keys schema).find? fun declared => Text.eqIgnoringAsciiCase declared name).getD name

/-- The headers as an object. Of several that count under one name the first is taken. -/
def toMembers (h : Headers) (schema : Schema) : Entries Json :=
  h.entries.foldl (fun members (name, value) =>
    let key := parameterName schema name
    if Entries.has members key then members else Entries.set members key (.string value)) []

end Headers

namespace Inputs

/-- The parameters in the path: shaped if they have a schema, and as they are otherwise. -/
def shapePath (inputs : Inputs) (registry : Registry) (path : Entries Json) : Entries Json :=
  match inputs.url with
  | some (.schema schema) => schema.shape registry path
  | _ => path

/-- The parameters of a request in one object. -/
def gather (inputs : Inputs) (registry : Registry) (path : Entries Json) (query body : Json)
    (headers : Headers) : Entries Json :=
  let querySchema := inputs.query.getD []
  let bodySchema := inputs.body.getD []
  let headerSchema := inputs.header.getD []
  let fromPath := inputs.shapePath registry path
  let fromQuery := Schema.shape registry querySchema (Entries.merge query.members path)
  let fromBody := Schema.shape registry bodySchema body.members
  let fromHeaders := Schema.shape registry headerSchema (headers.toMembers headerSchema)
  Entries.merge (Entries.merge (Entries.merge fromPath fromQuery) fromBody) fromHeaders

end Inputs

end Switchboard
