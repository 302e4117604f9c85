import Switchboard.Url.Domain.Direction
import Switchboard.Url.Domain.Joiner
import Switchboard.Url.Percent
import Switchboard.Url.Punycode

/-!
# Domain names

The name of a host is compared in one form: folded and in ASCII, with Punycode for the labels that
hold other characters. `Domain.toAscii` brings a name into this form. It refuses names with
characters that have a meaning of their own in a URL, labels that start with a mark, joiners and
directions that are out of place, and codes that no label has.
-/

namespace Switchboard.Url.Domain

/-- The character has a meaning of its own in a URL. -/
def isForbidden (c : Char) : Bool :=
  isControl c || [' ', '#', '%', '/', ':', '<', '>', '?', '@', '[', '\\', ']', '^', '|'].contains c

/-- The start of a label that stands for one with other characters than those of ASCII. -/
def codeStart : List Char := ['x', 'n', '-', '-']

/-- The longest label that is given a code. -/
def maxLabel : Nat := 1000

/-- The longest code that is read. -/
def maxCode : Nat := 2000

/-- The label that a code stands for. It must be folded, and the code must be the very one that it
has. -/
def labelOfCode? (code : List Char) : Option (List Char) := do
  let label ← if code.length ≤ maxCode then Punycode.decode code else none
  if !label.all Text.isAscii && !label.any isIgnored && fold label == some label
      && Punycode.encode label == code then
    some label
  else none

/-- The label that a folded label stands for. -/
def label? (folded : List Char) : Option (List Char) :=
  match Text.dropStart? codeStart folded with
  | some code => labelOfCode? code
  | none => some folded

/-- The label may stand in a name. -/
def isLabel (label : List Char) : Bool :=
  (label.all Text.isAscii || label.length ≤ maxLabel)
    && !(label.head?.map Text.isMark).getD false && joinersFit label

/-- The directions of the labels go together. -/
def keepDirections (labels : List (List Char)) : Bool :=
  !labels.any (·.any turnsName) || labels.all keepsDirection

/-- A label in ASCII. -/
def labelToAscii (label : List Char) : List Char :=
  if label.all Text.isAscii then label else codeStart ++ Punycode.encode label

/-- A domain name in folded form and in ASCII. -/
def toAscii (name : List Char) : Option (List Char) := do
  let folded ← fold name
  let pieces := Text.cut '.' folded
  let labels ← pieces.mapM label?
  if !folded.any isForbidden && labels.all isLabel && keepDirections labels then
    some (Text.join '.' (pieces.map labelToAscii))
  else none

end Switchboard.Url.Domain
