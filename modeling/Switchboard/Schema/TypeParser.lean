import Switchboard.Json.Reader
import Switchboard.Json.Size
import Switchboard.Schema.Field

/-!
# Parsers for types of one's own

A schema may name types that are not built in. A `TypeParser` turns a raw value into a value of such
a type, and a `Registry` finds the parser of a type by its name, in any letter case. Registrations
are only ever added, and of several for one name the earliest counts.

A parser may shape parts of its value by further declarations. It is handed the function that does
so, which takes only values smaller than the parser's own: this is why shaping always ends.
-/

namespace Switchboard

/-- Why a parser refused a value. -/
inductive ParserFault where
  /-- The value is not of the type, in the parser's words. -/
  | invalid (message : String)
  /-- The value is text that should be JSON and is not. -/
  | json (fault : JsonFault)
  deriving DecidableEq, Repr

/-- How a parser ended. -/
inductive ParserResult where
  | parsed (value : Json)
  | refused (fault : ParserFault)
  | crashed

/-- Shaping of the values smaller than `v` by a declaration. -/
abbrev ShapeWithin (v : Json) := (w : Json) → w.size < v.size → Field → Json

/-- The reading of raw values of one type. -/
structure TypeParser where
  parse : (v : Json) → ShapeWithin v → ParserResult

/-- The parsers that are known, in the order of their registration. -/
structure Registry where
  /-- Each parser with the names it was registered for, in lower case. -/
  entries : List (List String × TypeParser) := []

namespace Registry

/-- The registry without parsers. -/
def empty : Registry := {}

/-- Adds a parser for some names. -/
def register (r : Registry) (names : List String) (parser : TypeParser) : Registry :=
  ⟨r.entries ++ [(names.map Text.lowerCase, parser)]⟩

/-- The parser of a type: the earliest one registered for its name. -/
def find? (r : Registry) (typeName : String) : Option TypeParser :=
  (r.entries.find? fun entry => entry.1.contains (Text.lowerCase typeName)).map (·.2)

/-- The number of registrations. -/
def size (r : Registry) : Nat := r.entries.length

/-- Nothing has been registered. -/
def isEmpty (r : Registry) : Bool := r.entries.isEmpty

end Registry

end Switchboard
