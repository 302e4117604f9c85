import Switchboard.Settings
import Switchboard.Json.Printer
import Switchboard.Route.Template

/-!
# Where an API is served

All paths of an API lie under its base path, which is made of the path under which all APIs are
served, the prefix of this one and the version of its document. `Mount.relative?` cuts the base path
off the path of a request; the cut falls between segments.
-/

namespace Switchboard

/-- Where an API is served. -/
structure Mount where
  prefixPath : String
  httpPath : String := Settings.defaultHttpPath
  deriving DecidableEq, Repr

namespace Mount

/-- The place of an API under the path that the settings name. -/
def ofSettings (prefixPath : String) (s : Settings) : Mount := ⟨prefixPath, s.httpPath⟩

/-- The segment of a version. -/
def versionSegment (version : Nat) : List Char := 'v' :: natText version

/-- The segments of the base path. -/
def segments (m : Mount) (version : Nat) : List (List Char) :=
  pathSegments m.httpPath ++ pathSegments m.prefixPath ++ [versionSegment version]

/-- The base path: a slash before each segment and none at the end. -/
def basePath (m : Mount) (version : Nat) : String :=
  String.ofList ('/' :: Text.join '/' (m.segments version))

/-- What follows the base path in a path: nothing, or a slash and more. -/
def relative? (basePath path : String) : Option String :=
  match Text.dropStart? basePath.toList path.toList with
  | none => none
  | some rest =>
    if rest = [] ∨ rest.head? = some '/' then some (String.ofList rest) else none

end Mount

end Switchboard
