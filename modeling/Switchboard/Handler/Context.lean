import Switchboard.Http.Message

/-!
# The request as a handler sees it

A `Context` is a request together with the parameters in its path. A handler can ask for it as a
whole; its JSON form is where arguments that name a part of the request are looked up.
-/

namespace Switchboard

/-- A request and the parameters in its path. -/
structure Context where
  method : String
  path : String
  pathParameters : Entries Json
  query : Json
  body : Json
  headers : Headers

namespace Context

/-- The first value of a header. -/
def header? (c : Context) (name : String) : Option String := c.headers.get? name

/-- The request as an object. Of several headers of one name the last counts. -/
def toJson (c : Context) : Json :=
  .object
    [("method", .string c.method), ("path", .string c.path),
      ("params", .object c.pathParameters), ("query", c.query), ("body", c.body),
      ("headers", .object (Entries.ofPairs
        (c.headers.entries.map fun (name, value) => (name, Json.string value))))]

end Context

end Switchboard
