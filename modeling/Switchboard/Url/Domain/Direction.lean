import Switchboard.Text.Mark
import Switchboard.Url.Domain.Direction.Table

/-!
# Directions of labels

Most letters are written from left to right, and some from right to left. In a name with letters of
the second kind every label must read the same way from its first character to its last:
`Domain.keepsDirection` says what this means.
-/

namespace Switchboard.Url.Domain

/-- How a character is written among others. -/
inductive Direction where
  | left
  | right
  | arabicDigit
  | commonDigit
  | neutral
  /-- A mark takes the direction of the character before it. -/
  | mark
  deriving DecidableEq, Repr

/-- The direction of a character. -/
def direction (c : Char) : Direction :=
  if Text.isNonspacingMark c then .mark
  else if Text.inRanges commonDigitRanges c then .commonDigit
  else if Text.inRanges neutralRanges c then .neutral
  else if Text.inRanges rightRanges c then .right
  else if Text.inRanges arabicDigitRanges c then .arabicDigit
  else .left

/-- The characters before this code point are not written from right to left. -/
def firstRight : Nat := 0x590

/-- The character makes the direction of labels matter. -/
def turnsName (c : Char) : Bool :=
  firstRight ≤ c.toNat && (direction c == .right || direction c == .arabicDigit)

/-- What follows the first letter of a label from left to right: no character of the other
direction, and a letter or a digit at the end. -/
def runsRight (tail : List Direction) : Bool :=
  !tail.contains .right && !tail.contains .arabicDigit
    && (match tail.getLast? with
      | some last => last == .left || last == .commonDigit
      | none => true)

/-- What follows the first letter of a label from right to left: no character of the other
direction, not both kinds of digits, and a letter or a digit at the end. -/
def runsLeft (tail : List Direction) : Bool :=
  !tail.contains .left && !(tail.contains .arabicDigit && tail.contains .commonDigit)
    && (match tail.getLast? with
      | some last => last == .right || last == .commonDigit || last == .arabicDigit
      | none => true)

/-- A label starts with a letter, and runs in the direction of this letter. Marks at its end do not
count. -/
def keepsDirection (label : List Char) : Bool :=
  match label.map direction with
  | [] => true
  | first :: rest =>
    let tail := (rest.reverse.dropWhile (· == .mark)).reverse
    match first with
    | .left => runsRight tail
    | .right => runsLeft tail
    | _ => false

end Switchboard.Url.Domain
