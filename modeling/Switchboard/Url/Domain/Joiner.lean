import Switchboard.Url.Domain.Folded
import Switchboard.Url.Domain.Joiner.Table

/-!
# Joiners in labels

Two characters that are not seen say whether their neighbours are joined in writing. In a label they
have a place only where they make a difference: behind the mark that takes the vowel from a
syllable, or, for the one that keeps letters apart, between two letters that would be joined.
-/

namespace Switchboard.Url.Domain

/-- The letter is joined to the one after it. -/
def joinsNext (c : Char) : Bool :=
  Text.inRanges joinsBothRanges c || Text.inRanges joinsNextRanges c

/-- The letter is joined to the one before it. -/
def joinsLast (c : Char) : Bool :=
  Text.inRanges joinsBothRanges c || Text.inRanges joinsLastRanges c

/-- The mark is passed over in joining. -/
def isPassed (c : Char) : Bool := Text.isNonspacingMark c || Text.inRanges passedMarkRanges c

/-- The nearest letter has the property. -/
def nearest (property : Char → Bool) (cs : List Char) : Bool :=
  ((cs.dropWhile isPassed).head?.map property).getD false

/-- A joiner has a place between the characters before it, the nearest first, and those after it. -/
def joinerFits (before : List Char) (joiner : Char) (after : List Char) : Bool :=
  match before with
  | [] => false
  | last :: _ =>
    Text.combiningClass last == Text.viramaClass
      || (isNonJoiner joiner && nearest joinsNext before && nearest joinsLast after)

/-- All joiners have a place behind the characters passed, the nearest first. -/
def joinersFitBehind (before : List Char) : List Char → Bool
  | [] => true
  | c :: rest =>
    (!isJoiner c || joinerFits before c rest) && joinersFitBehind (c :: before) rest

/-- All joiners of a label have a place. -/
def joinersFit (label : List Char) : Bool := joinersFitBehind [] label

end Switchboard.Url.Domain
