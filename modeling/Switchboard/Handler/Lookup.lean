import Switchboard.Json.Basic
import Switchboard.Number.Literal
import Switchboard.Text.Split

/-!
# Looking up values by path

`lookup data path` finds a value inside an object: `user.name` is the member `name` of the member
`user`, and `items.0` the first item of the array `items`. A member whose key is the whole path
comes first.
-/

namespace Switchboard

/-- The position that a segment of a path means; a plus sign and zeros in front do not matter. -/
def readIndex? (segment : List Char) : Option Nat :=
  let digits := match segment with
    | '+' :: rest => rest
    | cs => cs
  if digits ≠ [] ∧ digits.all Char.isDigit then some (digitsValue digits) else none

/-- The part of a value that one segment of a path leads to. -/
def Json.child? : Json → List Char → Option Json
  | .object members, segment => Entries.get? members (String.ofList segment)
  | .array items, segment => (readIndex? segment).bind fun index => items[index]?
  | _, _ => none

/-- The part of a value that the segments of a path lead to, one after another. -/
def Json.descend? : Json → List (List Char) → Option Json
  | value, [] => some value
  | value, segment :: rest => (value.child? segment).bind fun part => part.descend? rest

/-- The value that a path leads to. -/
def lookup (data : Entries Json) (path : String) : Option Json :=
  match Entries.get? data path with
  | some value => some value
  | none => (Json.object data).descend? (Text.cut '.' path.toList)

end Switchboard
