import Switchboard.Json.Basic
import Switchboard.Number.Shortest
import Switchboard.Text.Quoted

/-!
# JSON text

`Json.text` writes a value without blanks, the members of an object in their order. A double is
written with the fewest digits that read back; `Double.isPositional` says which ones are written
with a plain point and which with an exponent.
-/

namespace Switchboard

/-- A natural number in base ten. -/
def natText (n : Nat) : List Char := Nat.toDigits 10 n

/-- An integer in base ten. -/
def intText (n : Int) : List Char :=
  (if n < 0 then ['-'] else []) ++ natText n.natAbs

namespace Decimal

/-- A decimal is written with a plain point from `0.00001` up to, not including, `10 ^ 16`. -/
def isPositional (d : Decimal) : Bool := -5 < d.point && d.point ≤ 16

/-- The decimal with a plain point and at least one digit on each side of it. -/
def positional (d : Decimal) : List Char :=
  let n := d.digits.length
  if d.point ≤ 0 then '0' :: '.' :: (List.replicate (-d.point).toNat '0' ++ d.digits)
  else if (n : Int) ≤ d.point then
    d.digits ++ List.replicate (d.point.toNat - n) '0' ++ ['.', '0']
  else d.digits.take d.point.toNat ++ '.' :: d.digits.drop d.point.toNat

/-- The decimal with one digit before the point and a signed exponent. -/
def scientific (d : Decimal) : List Char :=
  let exponent := d.point - 1
  let mantissa := match d.digits with
    | [] => ['0']
    | [c] => [c]
    | c :: rest => c :: '.' :: rest
  mantissa ++ 'e' :: (if exponent < 0 then '-' else '+') :: natText exponent.natAbs

/-- The decimal as text. -/
def text (d : Decimal) : List Char := if d.isPositional then d.positional else d.scientific

end Decimal

/-- A double as text: the fewest digits that read back, always with a point or an exponent. -/
def Double.text (x : Double) : List Char :=
  (if x.negative then ['-'] else []) ++
    (if x.isZero then ['0', '.', '0'] else x.shortest.text)

/-- A JSON number as text. -/
def Number.text : Number → List Char
  | .integer n => intText n
  | .double x => x.text

namespace Json

/-- One character as it stands inside a JSON string. -/
def escapeChar (c : Char) : List Char :=
  if c = '"' then ['\\', '"']
  else if c = '\\' then ['\\', '\\']
  else if c.toNat = 8 then ['\\', 'b']
  else if c.toNat = 12 then ['\\', 'f']
  else if c = '\n' then ['\\', 'n']
  else if c = '\r' then ['\\', 'r']
  else if c = '\t' then ['\\', 't']
  else if c.toNat < 16 then ['\\', 'u', '0', '0', '0'] ++ Text.hexText c.toNat
  else if c.toNat < 32 then ['\\', 'u', '0', '0'] ++ Text.hexText c.toNat
  else [c]

/-- A text as a JSON string. -/
def stringText (s : String) : List Char := '"' :: (s.toList.flatMap escapeChar ++ ['"'])

mutual
/-- The value as JSON text. -/
def render : Json → List Char
  | .null => ['n', 'u', 'l', 'l']
  | .bool true => ['t', 'r', 'u', 'e']
  | .bool false => ['f', 'a', 'l', 's', 'e']
  | .number n => n.text
  | .string s => stringText s
  | .array items => '[' :: renderItems items ++ [']']
  | .object members => '{' :: renderMembers members ++ ['}']

/-- The items with commas between them. -/
def renderItems : List Json → List Char
  | [] => []
  | [item] => render item
  | item :: next :: rest => render item ++ ',' :: renderItems (next :: rest)

/-- The members with commas between them. -/
def renderMembers : List (String × Json) → List Char
  | [] => []
  | [(key, value)] => stringText key ++ ':' :: render value
  | (key, value) :: next :: rest =>
    stringText key ++ ':' :: render value ++ ',' :: renderMembers (next :: rest)
end

/-- The value as JSON text without blanks. -/
def text (value : Json) : String := String.ofList value.render

end Json

end Switchboard
