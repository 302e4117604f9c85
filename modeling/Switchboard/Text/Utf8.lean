/-!
# Reading octets as UTF-8

`decode` reads a list of octets as UTF-8 and never fails: each stretch of octets that could start a
character but does not complete one is replaced by one replacement character, and so is each octet
that can start none. This is the reading of path segments and of query text, where any octets can
be written with percent signs.

Octets are natural numbers; no character has one above `0xFF`.
-/

namespace Switchboard.Text.Utf8

/-- The character that stands for octets that are no character. -/
def replacement : Char := Char.ofNat 0xFFFD

/-- The octets of a character. -/
def encodeChar (c : Char) : List Nat :=
  let n := c.toNat
  if n < 0x80 then [n]
  else if n < 0x800 then [0xC0 + n / 0x40, 0x80 + n % 0x40]
  else if n < 0x10000 then [0xE0 + n / 0x1000, 0x80 + n / 0x40 % 0x40, 0x80 + n % 0x40]
  else [0xF0 + n / 0x40000, 0x80 + n / 0x1000 % 0x40, 0x80 + n / 0x40 % 0x40, 0x80 + n % 0x40]

/-- The octets of a text. -/
def encode (cs : List Char) : List Nat := cs.flatMap encodeChar

/-- What is still owed of a character that has begun. -/
structure Pending where
  /-- The octets still owed. -/
  owed : Nat
  /-- The least octet that may come next. -/
  low : Nat
  /-- The greatest octet that may come next. -/
  high : Nat
  /-- The payload of the octets so far. -/
  payload : Nat
  deriving DecidableEq, Repr

/-- What an octet begins: a character that is complete, one that needs more octets, or none. -/
inductive Lead where
  | whole (c : Char)
  | begun (p : Pending)
  | bad
  deriving DecidableEq, Repr

/-- An octet that stands at the start of a character. -/
def lead (b : Nat) : Lead :=
  if b < 0x80 then .whole (Char.ofNat b)
  else if b < 0xC2 then .bad
  else if b < 0xE0 then .begun ⟨1, 0x80, 0xBF, b - 0xC0⟩
  else if b = 0xE0 then .begun ⟨2, 0xA0, 0xBF, 0⟩
  else if b = 0xED then .begun ⟨2, 0x80, 0x9F, 0xD⟩
  else if b < 0xF0 then .begun ⟨2, 0x80, 0xBF, b - 0xE0⟩
  else if b = 0xF0 then .begun ⟨3, 0x90, 0xBF, 0⟩
  else if b < 0xF4 then .begun ⟨3, 0x80, 0xBF, b - 0xF0⟩
  else if b = 0xF4 then .begun ⟨3, 0x80, 0x8F, 4⟩
  else .bad

/-- Reads on with a character begun or, at `none`, between characters. -/
def decodeFrom : Option Pending → List Nat → List Char
  | none, [] => []
  | some _, [] => [replacement]
  | none, b :: rest =>
    match lead b with
    | .whole c => c :: decodeFrom none rest
    | .begun p => decodeFrom (some p) rest
    | .bad => replacement :: decodeFrom none rest
  | some p, b :: rest =>
    if p.low ≤ b ∧ b ≤ p.high then
      let payload := p.payload * 0x40 + (b - 0x80)
      if p.owed ≤ 1 then Char.ofNat payload :: decodeFrom none rest
      else decodeFrom (some ⟨p.owed - 1, 0x80, 0xBF, payload⟩) rest
    else
      replacement :: match lead b with
        | .whole c => c :: decodeFrom none rest
        | .begun q => decodeFrom (some q) rest
        | .bad => replacement :: decodeFrom none rest

/-- The octets as text, with replacement characters for what is no character. -/
def decode (octets : List Nat) : List Char := decodeFrom none octets

end Switchboard.Text.Utf8
