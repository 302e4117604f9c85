import Switchboard.Entries
import Switchboard.Text.Split
import Switchboard.Url.Percent

/-!
# Pairs in a query

A query holds pairs of a name and a value: `&` stands between pairs, `=` between name and value, a
plus sign for a space, and a percent sign and two digits for any other octet.
-/

namespace Switchboard.Url

/-- The characters that stand for themselves in a pair. -/
def isFormSafe (c : Char) : Bool :=
  c.isAlphanum || c == '*' || c == '-' || c == '.' || c == '_'

/-- A name or a value as it stands in a pair. -/
def formText (cs : List Char) : List Char :=
  cs.flatMap fun c => if c = ' ' then ['+'] else encodeChar (fun d => !isFormSafe d) c

/-- Pairs as a query. -/
def formPairs : List (String × String) → List Char
  | [] => []
  | [(name, value)] => formText name.toList ++ '=' :: formText value.toList
  | (name, value) :: next :: rest =>
    formText name.toList ++ '=' :: formText value.toList ++ '&' :: formPairs (next :: rest)

/-- The text that a name or a value in a pair stands for. -/
def unformText (cs : List Char) : String :=
  String.ofList (decode (cs.map fun c => if c = '+' then ' ' else c))

/-- The pair in one piece of a query. -/
def readPair (piece : List Char) : String × String :=
  match Text.splitOnce '=' piece with
  | some (name, value) => (unformText name, unformText value)
  | none => (unformText piece, "")

/-- The pairs of a query; empty pieces are passed over. -/
def readPairs (query : List Char) : List (String × String) := (Text.parts '&' query).map readPair

end Switchboard.Url
