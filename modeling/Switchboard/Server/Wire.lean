import Switchboard.Http.MediaType
import Switchboard.Server.Router
import Switchboard.Url.Form

/-!
# Requests and responses on the wire

A request arrives as a method, a target, headers and the text of a body, and a header gives the
length of the body. The target is a path and a query, or a whole URL, or only the name of a server.
Before a router sees the request, the slashes of its path are put in order, its query becomes an
object of strings, and its body becomes a value where the headers name JSON as its form. A body that
is not what the headers name, or that is not there, is `null`.

A response leaves as a status, headers and the text of a body. A header that cannot be written makes
the whole response an error of the server.
-/

namespace Switchboard

/-- A request as it arrives. -/
structure WireRequest where
  method : String
  /-- What is asked for, and from which server if that is told. -/
  target : String
  headers : List (String × String)
  body : Option String := none

/-- A response as it leaves. -/
structure WireResponse where
  status : Nat
  headers : List (String × String)
  body : String
  deriving DecidableEq, Repr

namespace Wire

/-- Every run of slashes as one slash. -/
def mergeSlashes : List Char → List Char
  | [] => []
  | c :: rest =>
    if c = '/' ∧ rest.head? = some '/' then mergeSlashes rest else c :: mergeSlashes rest

/-- The path with single slashes and none at its end; a path of slashes alone is one slash. -/
def normalize (path : List Char) : List Char :=
  let merged := mergeSlashes (path.reverse.dropWhile (· == '/')).reverse
  if merged = [] then ['/'] else merged

/-- The character ends the name of a server. -/
def isBoundary (c : Char) : Bool := c == '/' || c == '?' || c == '#'

/-- A target from its path on. In a URL without a path a slash is understood; the name of a server
alone has no path, and neither a slash nor anything else is understood. -/
def fromPath (target : List Char) : List Char :=
  match target with
  | '/' :: _ | ['*'] => target
  | _ =>
    match Text.splitOnce ':' target with
    | some (_, '/' :: '/' :: rest) =>
      match rest.dropWhile fun c => !isBoundary c with
      | '/' :: path => '/' :: path
      | other => '/' :: other
    | _ => []

/-- The path of a target and its query. -/
def splitTarget (target : String) : List Char × List Char :=
  let visible := (fromPath target.toList).takeWhile (· != '#')
  match Text.splitOnce '?' visible with
  | some (path, query) => (path, query)
  | none => (visible, [])

/-- The character may stand in the value of a header that is written. -/
def isHeaderChar (c : Char) : Bool := (32 ≤ c.toNat && c.toNat != 127) || c == '\t'

/-- The character may stand in the value of a header that is read: one of ASCII only. -/
def isReadableChar (c : Char) : Bool := isHeaderChar c && c.toNat < 128

/-- The value can be read. -/
def isReadable (value : String) : Bool := value.toList.all isReadableChar

/-- The name of the header that gives the length of a body. -/
def contentLength : String := "content-length"

/-- The octets that a body may have. -/
def maxLength : Nat := 2097152

/-- All headers of a request. Whatever its headers say about the length of a body, what counts is
the length that the body has. -/
def allHeaders (r : WireRequest) : Headers :=
  let headers := Headers.ofList r.headers
  match r.body with
  | some body => headers.replace contentLength (String.ofList (natText body.utf8ByteSize))
  | none => headers

/-- The headers say that the body is JSON. Only the first header that names a form counts, whether
it can be read or not. -/
def announcesJson (headers : Headers) : Bool :=
  match headers.get? Response.contentType with
  | some form => isReadable form && MediaType.isJson form
  | none => false

/-- The value of a body. -/
def readBody (headers : Headers) (body : String) : Json :=
  if announcesJson headers && body.utf8ByteSize ≤ maxLength then
    match Json.read body with
    | .ok value => value
    | .error _ => .null
  else .null

/-- The request that a router sees. -/
def toRequest (r : WireRequest) : Request :=
  let (path, query) := splitTarget r.target
  let headers := allHeaders r
  let pairs := (Url.readPairs query).map fun (name, value) => (name, Json.string value)
  { method := r.method
    path := String.ofList (if path = [] then path else normalize path)
    query := .object (Entries.ofPairs pairs)
    headers := ⟨headers.entries.filter (isReadable ·.2)⟩
    body := readBody headers (r.body.getD "") }

/-- The response in place of one with a header that cannot be written. -/
def headerFault (text : String) : WireResponse :=
  { status := 500
    headers := [(Response.contentType, "text/plain; charset=utf-8")]
    body := text }

/-- The text is the name of a header. -/
def isHeaderName (name : String) : Bool :=
  name != "" && name.toList.all fun c => MediaType.isTokenChar c || c == '"'

/-- What is wrong with the first header that cannot be written. -/
def findHeaderFault : List (String × String) → Option String
  | [] => none
  | (name, value) :: rest =>
    if ¬ isHeaderName name then some "invalid HTTP header name"
    else if ¬ value.toList.all isHeaderChar then some "failed to parse header value"
    else findHeaderFault rest

/-- The response as it leaves. -/
def ofResponse (r : Response) : WireResponse :=
  match findHeaderFault r.headers.entries with
  | some text => headerFault text
  | none => { status := r.status, headers := r.headers.entries, body := r.body.getD "" }

/-- Answers a request from the wire by a router; a request that it leaves alone gets status 404. -/
def serve {σ : Type} (router : Router σ) (r : WireRequest) (store : σ) : WireResponse × σ :=
  let (response, after) := router ⟨toRequest r, store⟩
  (ofResponse (response.getD Router.notFound), after.store)

end Wire

end Switchboard
