import Switchboard.Http.Headers
import Switchboard.Json.Reader
import Switchboard.Json.Printer

/-!
# Requests and responses

A request as a router sees it, with the query as an object and the body as a value, and a response
as a router gives it. The body of a request can be taken once; afterwards it is `null`.
-/

namespace Switchboard

/-- A request. -/
structure Request where
  method : String
  path : String
  /-- The query as an object of strings. -/
  query : Json
  headers : Headers
  body : Json

namespace Request

/-- The body, and the request without it. -/
def takeBody (r : Request) : Json × Request := (r.body, { r with body := .null })

end Request

/-- A response; it may have no body. -/
structure Response where
  status : Nat
  headers : Headers
  body : Option String
  deriving DecidableEq, Repr

namespace Response

/-- The header that names the form of a body. -/
def contentType : String := "content-type"

/-- The name of the form of a JSON body. -/
def jsonType : String := "application/json"

/-- A response with a value as its body. Whatever form the headers name gives way to JSON. -/
def json (status : Nat) (body : Json) (headers : Headers) : Response :=
  { status, headers := headers.replace contentType jsonType, body := some body.text }

/-- A response without a body. -/
def empty (status : Nat) (headers : Headers) : Response := { status, headers, body := none }

/-- A response with a value as its body, or without a body. -/
def ofBody (status : Nat) (body : Option Json) (headers : Headers) : Response :=
  match body with
  | some value => json status value headers
  | none => empty status headers

/-- The response without its body. -/
def withoutBody (r : Response) : Response := { r with body := none }

/-- The value that the body holds; no body and an empty one hold `null`. -/
def readBody (r : Response) : Except JsonFault Json :=
  match r.body with
  | none => .ok .null
  | some text => if text = "" then .ok .null else Json.read text

end Response

end Switchboard
