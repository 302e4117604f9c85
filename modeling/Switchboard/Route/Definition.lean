import Switchboard.Json.Reader
import Switchboard.Route.Document

/-!
# Definitions

A `Definition` is a document together with the very JSON value that it was read from. The document
is what is served; the value is what is shown to clients, with everything in it that the document
has no use for.
-/

namespace Switchboard

/-- A document and the value that it was read from. -/
structure Definition where
  raw : Json
  document : Document

/-- Why a definition could not be loaded. -/
inductive DefinitionError where
  /-- The text is no JSON value. -/
  | unreadable (fault : JsonFault)
  /-- The value is no document. -/
  | malformed (cause : DecodeError)
  /-- There is no file of that name. -/
  | noFile (path : String)

namespace Definition

/-- The definition that a value is. -/
def ofJson (raw : Json) : Except DefinitionError Definition :=
  match Document.decode raw with
  | .ok document => .ok ⟨raw, document⟩
  | .error cause => .error (.malformed cause)

/-- The definition that a text holds. -/
def ofText (text : String) : Except DefinitionError Definition :=
  match Json.read text with
  | .ok raw => ofJson raw
  | .error fault => .error (.unreadable fault)

/-- The definition in a file; the content is `none` where the path leads to no file. -/
def ofFile (path : String) (content : Option String) : Except DefinitionError Definition :=
  match content with
  | some text => ofText text
  | none => .error (.noFile path)

/-- The version of the document. -/
def version (d : Definition) : Nat := d.document.version

end Definition

namespace DefinitionError

/-- The wording of the error; a text that is no JSON has none of its own. -/
def message : DefinitionError → Option String
  | unreadable _ => none
  | malformed cause => some ("Malformed route definition document: " ++ cause.message)
  | noFile path => some ("No such file " ++ path)

end DefinitionError

end Switchboard
