import Switchboard.Text.Mark.Table
import Switchboard.Text.Quoted.Table

/-!
# Combining marks

A mark combines with the character before it. Most marks take no room of their own; those that do
are listed apart. Marks that follow one character may change places if they do not meet: each has a
class, which says where it is put, and only marks of one class keep their order for the reader. The
class of a character that never changes places is zero.
-/

namespace Switchboard.Text

/-- The first code point of a mark; the characters before it need no table. -/
def firstMark : Nat := 0x300

/-- The character is a mark that takes room of its own. -/
def isSpacingMark (c : Char) : Bool := firstMark ≤ c.toNat && inRanges spacingMarkRanges c

/-- The character is a mark that takes no room. -/
def isNonspacingMark (c : Char) : Bool :=
  firstMark ≤ c.toNat && inRanges attachedRanges c && !inRanges spacingMarkRanges c
    && !inRanges invisibleRanges c

/-- The character is a mark. -/
def isMark (c : Char) : Bool := isSpacingMark c || isNonspacingMark c

/-- The class of a character. -/
def combiningClass (c : Char) : Nat :=
  if c.toNat < firstMark then 0
  else
    match classRanges.find? fun row => inRanges row.2 c with
    | some (number, _) => number
    | none => 0

/-- The class of the marks that end a syllable without its vowel. -/
def viramaClass : Nat := 9

end Switchboard.Text
