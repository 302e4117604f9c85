import Switchboard.Number.Literal
import Switchboard.Text.Utf8

/-!
# Percent signs in URLs

A character that may not stand in a part of a URL is written as its octets, each as a percent sign
and two digits of base sixteen. Which characters these are depends on the part: an `EncodeSet` says
so for the characters of ASCII, and all others are always encoded.

Decoding takes every percent sign that two digits follow as an octet, leaves every other one as it
is, and reads the octets as UTF-8.
-/

namespace Switchboard.Url

/-- The characters of ASCII that are encoded in a part of a URL. -/
abbrev EncodeSet := Char → Bool

/-- A digit of base sixteen in capitals. -/
def hexDigit (n : Nat) : Char := if n < 10 then Char.ofNat (48 + n) else Char.ofNat (55 + n)

/-- An octet behind a percent sign. -/
def encodeOctet (b : Nat) : List Char := ['%', hexDigit (b / 16), hexDigit (b % 16)]

/-- One character in a part of a URL. -/
def encodeChar (set : EncodeSet) (c : Char) : List Char :=
  if c.toNat < 0x80 ∧ ¬ set c then [c]
  else (Text.Utf8.encodeChar c).flatMap encodeOctet

/-- A text in a part of a URL. -/
def encode (set : EncodeSet) (cs : List Char) : List Char := cs.flatMap (encodeChar set)

/-- The value of a digit of base sixteen. -/
def hexValue? (c : Char) : Option Nat :=
  if Base.sixteen.isDigit c then some (Base.digitValue c) else none

/-- The octets that a part of a URL stands for. -/
def decodeOctets : List Char → List Nat
  | '%' :: a :: b :: rest =>
    match hexValue? a, hexValue? b with
    | some high, some low => (high * 16 + low) :: decodeOctets rest
    | _, _ => '%'.toNat :: decodeOctets (a :: b :: rest)
  | c :: rest => Text.Utf8.encodeChar c ++ decodeOctets rest
  | [] => []

/-- The text that a part of a URL stands for. -/
def decode (cs : List Char) : List Char := Text.Utf8.decode (decodeOctets cs)

/-! ## The parts of a URL -/

/-- Control characters. -/
def isControl (c : Char) : Bool := c.toNat < 0x20 || c.toNat == 0x7F

/-- What is encoded in a fragment. -/
def fragmentSet : EncodeSet := fun c => isControl c || [' ', '"', '<', '>', '`'].contains c

/-- What is encoded in a path. -/
def pathSet : EncodeSet := fun c => fragmentSet c || ['#', '?', '{', '}'].contains c

/-- What is encoded in the name and the password of a user. -/
def userSet : EncodeSet := fun c =>
  pathSet c || ['/', ':', ';', '=', '@', '[', '\\', ']', '^', '|'].contains c

/-- What is encoded in one segment of a path. -/
def segmentSet : EncodeSet := fun c => pathSet c || ['/', '%'].contains c

/-- What is encoded in one segment of a path where a backslash separates segments too. -/
def specialSegmentSet : EncodeSet := fun c => segmentSet c || c == '\\'

/-- What is encoded in a query. -/
def querySet : EncodeSet := fun c => isControl c || [' ', '"', '#', '<', '>'].contains c

/-- What is encoded in a query under one of the special schemes. -/
def specialQuerySet : EncodeSet := fun c => querySet c || c == '\''

end Switchboard.Url
