import Switchboard.Text.Composed
import Switchboard.Text.LowerCase
import Switchboard.Url.Domain.Folded.Table

/-!
# Folded names

Names of hosts are compared in folded form. It is in lower case and composed, every character that
is only another shape of others, such as a wide letter, a ligature or a number in a circle, is
written as these, and the characters that count for nothing are left out. `Domain.fold` brings a
text into this form and refuses one with a character that has no place in a name.
-/

namespace Switchboard.Url.Domain

/-- The character counts for nothing. -/
def isIgnored (c : Char) : Bool := !Text.isAscii c && Text.inRanges ignoredRanges c

/-- The character keeps its neighbours from being joined in writing. -/
def isNonJoiner (c : Char) : Bool := c.toNat == 0x200C

/-- The character has its neighbours joined in writing, or keeps them from it. -/
def isJoiner (c : Char) : Bool := isNonJoiner c || c.toNat == 0x200D

/-- The character has no place in a name. -/
def isRefused (c : Char) : Bool :=
  !Text.isAscii c && !isIgnored c && !isJoiner c
    && (Text.inRanges refusedRanges c || Text.inRanges Text.invisibleRanges c)

/-- The character is a capital letter of the Cherokee script, whose small letters are folded to the
capital ones. -/
def isCherokee (c : Char) : Bool := 0x13A0 ≤ c.toNat && c.toNat ≤ 0x13F5

/-- The row holds the character. -/
def FoldRow.covers (row : FoldRow) (c : Char) : Bool :=
  row.first ≤ c.toNat && c.toNat ≤ row.last

/-- The text that a character in the row stands for. -/
def FoldRow.text (row : FoldRow) (c : Char) : List Char :=
  ((Text.parts ' ' row.texts.toList)[c.toNat - row.first]?).getD [c]

/-- The text that a character stands for. -/
def foldChar (c : Char) : List Char :=
  if Text.isAscii c then [c.toLower]
  else if isIgnored c then []
  else
    match foldRows.find? (·.covers c) with
    | some row => row.text c
    | none => if isCherokee c then [c] else Text.lowerChar c

/-- The text in folded form. -/
def fold (cs : List Char) : Option (List Char) :=
  if cs.any isRefused then none else some (Text.composed (cs.flatMap foldChar))

end Switchboard.Url.Domain
