import Switchboard.Text.LowerCase

/-!
# Labels of international domain names

A label of a domain name is written in ASCII. A label with other characters is written as `xn--` and
its Punycode: first its ASCII characters, then a hyphen if there are any, and then digits of base
thirty-six that say which characters stand where. Each of these numbers counts the places passed
over since the last one: all places of the text so far for one code point, then all for the next.

`Punycode.encode` writes the code of a label and `Punycode.decode` reads it.
-/

namespace Switchboard.Url.Punycode

/-- The first code point that is not of ASCII. -/
def firstPoint : Nat := 0x80

/-- The bias at the start of a label. -/
def firstBias : Nat := 72

/-- The least digit that does not end a number, at a place that counts up by 36. -/
def threshold (place bias : Nat) : Nat := max 1 (min 26 (place - bias))

theorem one_le_threshold (place bias : Nat) : 1 ≤ threshold place bias := Nat.le_max_left ..

/-- Divides a number by 35 until it is small, and counts the divisions in steps of 36. -/
def scaleDown (delta steps : Nat) : Nat × Nat :=
  if 455 < delta then scaleDown (delta / 35) (steps + 36) else (delta, steps)
termination_by delta
decreasing_by exact Nat.div_lt_self (by omega) (by omega)

/-- The bias after a number, in a text that is then of the given length. -/
def adapt (delta length : Nat) (isFirst : Bool) : Nat :=
  let damped := if isFirst then delta / 700 else delta / 2
  let (scaled, steps) := scaleDown (damped + damped / length) 0
  steps + 36 * scaled / (scaled + 38)

/-- A digit of base thirty-six: the letters, then the digits of base ten. -/
def digitChar (d : Nat) : Char := Char.ofNat (if d < 26 then 97 + d else 22 + d)

/-- The value of a digit. -/
def digitValue? (c : Char) : Option Nat :=
  if c.isDigit then some (c.toNat - 22)
  else if c.isLower then some (c.toNat - 97)
  else none

/-! ## Writing -/

/-- A number as digits, from a place on. -/
def encodeNumber (bias place n : Nat) : List Char :=
  let least := threshold place bias
  if n < least then [digitChar n]
  else
    digitChar (least + (n - least) % (36 - least)) ::
      encodeNumber bias (place + 36) ((n - least) / (36 - least))
termination_by n
decreasing_by
  have hOne := one_le_threshold place bias
  exact Nat.lt_of_le_of_lt (Nat.div_le_self _ _) (by omega)

/-- The state of the writer. -/
structure Writer where
  written : List Char
  /-- The places passed over since the last number. -/
  delta : Nat := 0
  bias : Nat := firstBias
  /-- The characters written so far, by code or as they are. -/
  handled : Nat

/-- Passes one place of the label on the way to all places of one code point. -/
def Writer.pass (ascii point : Nat) (w : Writer) (c : Char) : Writer :=
  if c.toNat < point then { w with delta := w.delta + 1 }
  else if c.toNat = point then
    { written := w.written ++ encodeNumber w.bias 36 w.delta
      delta := 0
      bias := adapt w.delta (w.handled + 1) (w.handled == ascii)
      handled := w.handled + 1 }
  else w

/-- Writes the places of the given code points, which are in ascending order. -/
def Writer.run (label : List Char) (ascii : Nat) : List Nat → Nat → Writer → Writer
  | [], _, w => w
  | point :: points, next, w =>
    let skipped := { w with delta := w.delta + (point - next) * (w.handled + 1) }
    let passed := label.foldl (Writer.pass ascii point) skipped
    run label ascii points (point + 1) { passed with delta := passed.delta + 1 }

/-- Puts a number into its place in an ascending list without repetition. -/
def insertPoint (point : Nat) : List Nat → List Nat
  | [] => [point]
  | p :: rest =>
    if point < p then point :: p :: rest
    else if point = p then p :: rest
    else p :: insertPoint point rest

/-- The code of a label. -/
def encode (label : List Char) : List Char :=
  let ascii := label.filter Text.isAscii
  let points := (label.filter (!Text.isAscii ·)).foldl (fun ps c => insertPoint c.toNat ps) []
  let start := if ascii = [] then [] else ascii ++ ['-']
  (Writer.run label ascii.length points firstPoint
    { written := start, handled := ascii.length }).written

/-! ## Reading -/

/-- The state of the reader. -/
structure Reader where
  text : List Char
  point : Nat := firstPoint
  /-- The place of the next character, with the digits of the number so far counted in. -/
  index : Nat := 0
  /-- The place at the start of the number. -/
  start : Nat := 0
  weight : Nat := 1
  place : Nat := 36
  bias : Nat := firstBias

/-- A number that fits into 32 bits. No number of a code is larger. -/
def small? (n : Nat) : Option Nat := if n < Nat.pow 2 32 then some n else none

/-- Reads a digit. -/
def Reader.step (r : Reader) (c : Char) : Option Reader := do
  let digit ← digitValue? c
  let index ← small? (r.index + digit * r.weight)
  let least := threshold r.place r.bias
  if digit < least then
    let length := r.text.length + 1
    let point := r.point + index / length
    let index := index % length
    if point.isValidChar then
      some
        { text := r.text.insertIdx index (Char.ofNat point)
          point
          index := index + 1
          start := index + 1
          bias := adapt (r.index + digit * r.weight - r.start) length (r.start == 0) }
    else none
  else
    let weight ← small? (r.weight * (36 - least))
    some { r with index, weight, place := r.place + 36 }

/-- Cuts a code at its last hyphen. -/
def splitCode (code : List Char) : List Char × List Char :=
  let (digits, ascii) := code.reverse.span (· != '-')
  (ascii.tail.reverse, digits.reverse)

/-- The label that a code stands for. -/
def decode (code : List Char) : Option (List Char) := do
  let (ascii, digits) := splitCode code
  let r ← digits.foldlM Reader.step { text := ascii }
  if r.weight = 1 then some r.text else none

end Switchboard.Url.Punycode
