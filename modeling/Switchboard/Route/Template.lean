import Switchboard.Json.Basic
import Switchboard.Text.Split
import Switchboard.Url.Percent

/-!
# Path templates

The path of a route is a template. Its segments are literals, which stand for themselves, and
parameters, written as a colon and a name, which stand for any one segment. Slashes only separate:
empty segments count neither in a template nor in the path of a request.

`Template.capture?` decides whether a path fits and gives the values of the parameters, decoded.
-/

namespace Switchboard

/-- A segment of a template. -/
inductive Segment where
  | literal (text : String)
  | parameter (name : String)
  deriving DecidableEq, Repr

namespace Segment

/-- The segment that a text means; a colon alone is a literal. -/
def ofText (text : List Char) : Segment :=
  match text with
  | ':' :: c :: rest => .parameter (String.ofList (c :: rest))
  | _ => .literal (String.ofList text)

/-- The name of a parameter. -/
def name? : Segment → Option String
  | literal _ => none
  | parameter name => some name

end Segment

/-- The pattern of the paths of a route. -/
structure Template where
  segments : List Segment
  deriving DecidableEq, Repr

/-- The segments of a path. -/
def pathSegments (path : String) : List (List Char) := Text.parts '/' path.toList

namespace Template

/-- The template that the path of a route means. -/
def ofPath (path : String) : Template := ⟨(pathSegments path).map Segment.ofText⟩

/-- The names of the parameters, in order; a name may stand twice. -/
def parameterNames (t : Template) : List String := t.segments.filterMap Segment.name?

/-- Fits segments of a path to segments of a template, after the values captured already. A name
that stands twice keeps its first place and takes the value of its last. -/
def captureFrom (captured : Entries Json) : List Segment → List (List Char) → Option (Entries Json)
  | [], [] => some captured
  | .literal text :: segments, part :: parts =>
    if text.toList = part then captureFrom captured segments parts else none
  | .parameter name :: segments, part :: parts =>
    captureFrom (Entries.set captured name (.string (String.ofList (Url.decode part))))
      segments parts
  | _, _ => none

/-- The values of the parameters in a path that fits the template. -/
def capture? (t : Template) (path : String) : Option (Entries Json) :=
  captureFrom [] t.segments (pathSegments path)

end Template

end Switchboard
