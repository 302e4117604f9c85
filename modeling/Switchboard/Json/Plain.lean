import Switchboard.Json.Printer
import Switchboard.Number.Literal
import Switchboard.Text.Blank
import Switchboard.Text.Split

/-!
# Loose reading of values

Parameters arrive as text from a path or a query and as any value from a body, and a document may
declare any type for them. These are the conversions between them:

* `Json.isTruthy` decides whether a value counts as given at all;
* `Json.plainText` writes any value as text, without the quotation marks of JSON;
* `readNumber` and `readWhole` read a number from the start of a text;
* `Json.ofRounded` is the JSON number of a number so read.
-/

namespace Switchboard

namespace Json

/-- `null`, `false`, zero and the empty text do not count as given; every other value does, an
empty array and an empty object among them. -/
def isTruthy : Json → Bool
  | .null => false
  | .bool b => b
  | .number n => !n.isZero
  | .string s => s != ""
  | .array _ => true
  | .object _ => true

end Json

/-- Doubles of at least this magnitude are written with an exponent even if they have no
fraction. -/
def wholeLimit : Nat := Nat.pow 10 21

/-- A number as plain text: a double without a fraction is written as an integer. -/
def Number.plainText : Number → List Char
  | .integer n => intText n
  | .double x =>
    if x.isWhole && x.wholePart < wholeLimit then
      (if x.negative then ['-'] else []) ++ natText x.wholePart
    else x.text

namespace Json

mutual
/-- The value as plain text: a string is itself, an array its items with commas between them, and an
object its JSON text. -/
def plainText : Json → List Char
  | .null => ['n', 'u', 'l', 'l']
  | .bool true => ['t', 'r', 'u', 'e']
  | .bool false => ['f', 'a', 'l', 's', 'e']
  | .number n => n.plainText
  | .string s => s.toList
  | .array items => Text.join ',' (plainItems items)
  | .object members => render (.object members)

/-- The items of an array as plain text; a `null` among them is written as nothing. -/
def plainItems : List Json → List (List Char)
  | [] => []
  | .null :: rest => [] :: plainItems rest
  | item :: rest => plainText item :: plainItems rest
end

/-- An integer where the number has no fraction and is below `2 ^ 53` in magnitude, a double where
it is finite, and `null` where it is not. -/
def ofRounded : Rounded → Json
  | .finite x =>
    if x.isWhole && x.wholePart < Nat.pow 2 53 then .number (.integer x.truncate)
    else .number (.double x)
  | .infinite _ => .null

end Json

/-- The name of the infinite number. -/
def infinityName : List Char := ['I', 'n', 'f', 'i', 'n', 'i', 't', 'y']

/-- The number at the start of a text, after any blanks: a decimal numeral or `Infinity` with an
optional sign. -/
def readNumber (text : List Char) : Option Rounded :=
  let start := Text.trimStart text
  let (sign, unsigned) := Sign.scan start
  if (Text.dropStart? infinityName unsigned).isSome then some (.infinite sign.isMinus)
  else (Literal.scan start).map fun (literal, _) => literal.value

/-- The whole number at the start of a text, after any blanks, in base ten or, after `0x`, in base
sixteen. -/
def readWhole (text : List Char) : Option Rounded :=
  (WholeLiteral.scan (Text.trimStart text)).bind WholeLiteral.value

end Switchboard
