import Switchboard.Entries
import Switchboard.Number.Double

/-!
# JSON values

A JSON value as this library keeps it: the members of an object stay in the order in which they
came, and a number remembers whether it was written as an integer or as a floating-point number,
because both show in what is written out again.
-/

namespace Switchboard

/--
A JSON number. A literal without a fraction and an exponent that fits 64 bits is an integer, every
other one a double; an integer and a double of the same value are different numbers.
-/
inductive Number where
  | integer (n : Int)
  | double (x : Double)
  deriving DecidableEq

/-- A JSON value. -/
inductive Json where
  | null
  | bool (b : Bool)
  | number (n : Number)
  | string (s : String)
  | array (items : List Json)
  | object (members : List (String × Json))
  deriving Inhabited

namespace Number

/-- The number is zero, in either form. -/
def isZero : Number → Bool
  | integer n => n == 0
  | double x => x.isZero

/-- The numbers are of the same form and of equal value; the two zeros of the doubles are equal. -/
def same : Number → Number → Bool
  | integer m, integer n => m == n
  | double x, double y => x == y || x.isZero && y.isZero
  | _, _ => false

end Number

namespace Json

/-- An integer as a JSON value. -/
def ofInt (n : Int) : Json := .number (.integer n)

/-- The members of an object; no members for any other value. -/
def members : Json → Entries Json
  | .object ms => ms
  | _ => []

/-- The value is `null`. -/
def isNull : Json → Bool
  | .null => true
  | _ => false

mutual
/-- Equality of JSON values, in which the order of the members of an object does not count. -/
def same : Json → Json → Bool
  | .null, .null => true
  | .bool a, .bool b => a == b
  | .number m, .number n => m.same n
  | .string s, .string t => s == t
  | .array xs, .array ys => sameItems xs ys
  | .object ms, .object ns => ms.length == ns.length && sameMembers ms ns
  | _, _ => false

/-- The lists are equal item by item. -/
def sameItems : List Json → List Json → Bool
  | [], [] => true
  | x :: xs, y :: ys => same x y && sameItems xs ys
  | _, _ => false

/-- Every member of the first list has its equal in the second map. -/
def sameMembers : List (String × Json) → Entries Json → Bool
  | [], _ => true
  | (k, v) :: rest, ns =>
    (match Entries.get? ns k with
      | some w => same v w
      | none => false) && sameMembers rest ns
end

end Json

end Switchboard
